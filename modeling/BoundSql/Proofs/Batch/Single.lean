import BoundSql.Proofs.Batch.Insert
import BoundSql.Proofs.Statement

/-!
# Batches and single inserts

A batch that merges nothing could also be written row by row.  `BatchInsert.single` is the insert
of one of its rows.  All these inserts have the same text, since the rows share their columns, and
every chunk repeats it: the text of a chunk is that of a single insert with the group of its
placeholders written once more for each further row, and the parameters are those of the single
inserts one after the other (`BatchInsert.chunks_repeat_single`).
-/

namespace BoundSql

/-- Groups with commas are one group, and the others each behind a comma. -/
theorem intercalate_replicate (group : String) (n : Nat) :
    String.intercalate ", " (List.replicate (n + 1) group)
      = group ++ String.join (List.replicate n (", " ++ group)) := by
  induction n with
  | zero => simp
  | succ n ih =>
      rw [List.replicate_succ, List.replicate_succ, String.intercalate_cons_cons,
        ← List.replicate_succ, ih, List.replicate_succ, String.join_cons, String.append_assoc,
        String.append_assoc]

/-- The statement of a text and of values in parentheses behind it. -/
theorem statement_text_tuple (front : String) (vs : List Value) :
    (Fragment.text front ++ Fragment.tuple vs).statement
      = ⟨front ++ placeholderGroup vs.length, vs⟩ := by
  have hsql : (Fragment.text front ++ Fragment.tuple vs).sql
      = front ++ placeholderGroup vs.length := by
    rw [Fragment.sql_eq_written, Fragment.written_append, Fragment.written_text,
      ← Fragment.sql_eq_written, ChunkFrame.sql_tuple]
  have hparams : (Fragment.text front ++ Fragment.tuple vs).params = vs := by
    rw [Fragment.params_append, Fragment.params_text, List.nil_append, Fragment.params_tuple]
  rw [Fragment.statement, hsql, hparams]

namespace Chunk

variable {frame : ChunkFrame} {rows : List Row} {columns : Nat} {chunk : Chunk}

/-- The text for one row, and the group of each further row behind it. -/
theorem Writes.sql_repeated (h : chunk.Writes frame rows columns) (htail : frame.tail = "")
    (hsize : 0 < chunk.size) :
    chunk.statement.sql = frame.head ++ placeholderGroup columns
      ++ String.join (List.replicate (chunk.size - 1) (", " ++ placeholderGroup columns)) := by
  obtain ⟨n, hn⟩ := Nat.exists_eq_succ_of_ne_zero (Nat.ne_of_gt hsize)
  rw [h.sql, htail, String.append_empty, hn, Nat.succ_eq_add_one, intercalate_replicate,
    Nat.add_sub_cancel, String.append_assoc]

/-- A chunk of one row has the text for one row and the values of the row. -/
theorem Writes.of_size_one (h : chunk.Writes frame rows columns) (htail : frame.tail = "")
    (hstop : chunk.stop.toNat ≤ rows.length) (hone : chunk.size = 1) :
    ∃ r ∈ rows, slice rows chunk.range = [r]
      ∧ chunk.statement = ⟨frame.head ++ placeholderGroup columns, r.values⟩ := by
  have hlength : (slice rows chunk.range).length = 1 := (length_slice hstop).trans hone
  obtain ⟨r, hr⟩ := List.length_eq_one_iff.mp hlength
  have hmem : r ∈ slice rows chunk.range := hr ▸ List.mem_singleton_self r
  have hsql : chunk.statement.sql = frame.head ++ placeholderGroup columns := by
    rw [h.sql_repeated htail (by omega), hone]
    exact String.append_empty
  have hparams : chunk.statement.params = r.values := by
    rw [h.params, hr, List.flatMap_singleton]
  refine ⟨r, mem_of_mem_slice hmem, hr, ?_⟩
  rw [← hsql, ← hparams]

end Chunk

namespace BatchInsert

variable {b : BatchInsert} {d : Dialect}

/-- The insert of one row of the batch, by the same verb. -/
def single (b : BatchInsert) (r : Row) : Insert :=
  match b.mode with
  | .insertIgnore => Insert.ignore { table := b.table, row := r }
  | .insert | .upsert _ => { table := b.table, row := r }

theorem single_eq (b : BatchInsert) (r : Row) :
    b.single r = { table := b.table, row := r, verb := b.mode.verb } := by
  rw [single]
  cases b.mode <;> rfl

/-- The inserts of all rows have the same text. -/
theorem build_single {columns : List String} (hcolumns : b.columns = .ok columns) {r : Row}
    (hr : r ∈ b.rows) :
    (b.single r).build d
      = .ok ⟨(b.frame d columns).head ++ placeholderGroup columns.length, r.values⟩ := by
  obtain ⟨_, hnonempty, hshape⟩ := columns_eq_ok hcolumns
  have hnamed : ¬ Text.isBlankText b.table = true := by
    simp [isBlankText_table hcolumns]
  have hfull : ¬ r.isEmpty = true := by
    rw [Row.isEmpty, List.isEmpty_iff]
    intro hempty
    apply hnonempty
    rw [← hshape r hr, Row.columns, hempty, List.map_nil]
  have hlength : r.values.length = columns.length := by rw [r.length_values, hshape r hr]
  have hfragment : (b.single r).fragment d
      = .ok (Fragment.text (b.frame d columns).head ++ Fragment.tuple r.values) := by
    rw [single_eq, Insert.fragment_eq, if_neg hnamed, if_neg hfull, hshape r hr]
    exact congrArg Except.ok (List.append_nil _)
  rw [Insert.build, hfragment, ← hlength, ← statement_text_tuple]
  rfl

/-- All rows of the batch have the same single insert but for the values.  Each chunk has the text
of this insert, with its group of placeholders once more for each further row, and the parameters
of its rows one after the other.  So a chunk of one row is the single insert of that row. -/
theorem chunks_repeat_single (b : BatchInsert) (d : Dialect) (maxParams : UInt64) (c : ChunkCursor)
    (hmem : RowsInMemory b.rows) (hmode : b.mode = .insert ∨ b.mode = .insertIgnore)
    (h : b.compile d maxParams = .ok c) :
    ∃ front columns,
      (∀ r ∈ b.rows, r.values.length = columns
        ∧ (b.single r).build d = .ok ⟨front ++ placeholderGroup columns, r.values⟩)
      ∧ c.Yields c.chunks
      ∧ ∀ chunk ∈ c.chunks,
          chunk.start.toNat < chunk.stop.toNat ∧ chunk.stop.toNat ≤ b.rows.length
          ∧ chunk.statement.sql = front ++ placeholderGroup columns
              ++ String.join (List.replicate (chunk.size - 1) (", " ++ placeholderGroup columns))
          ∧ chunk.statement.params = (slice b.rows chunk.range).flatMap Row.values
          ∧ (chunk.size = 1 → ∃ r, slice b.rows chunk.range = [r]
              ∧ (b.single r).build d = .ok chunk.statement) := by
  obtain ⟨columns, hcolumns, _⟩ := compile_eq_ok h
  obtain ⟨_, _, hshape⟩ := columns_eq_ok hcolumns
  have htail : (b.frame d columns).tail = "" := by
    rcases hmode with hmode | hmode <;> rw [frame, hmode]
  have hyields : c.Yields c.chunks := by
    rw [chunks_eq hmem h]
    exact compile_yields hmem h
  refine ⟨(b.frame d columns).head, columns.length, fun r hr => ⟨?_, build_single hcolumns hr⟩,
    hyields, fun chunk hchunk => ?_⟩
  · rw [r.length_values, hshape r hr]
  · obtain ⟨hlt, hle⟩ := (tiles_chunks hmem h).bounds_of_mem (List.mem_map_of_mem hchunk)
    have hwrites := compile_writes hmem h hcolumns chunk hchunk
    refine ⟨hlt, hle, hwrites.sql_repeated htail (Nat.sub_pos_of_lt hlt), hwrites.params,
      fun hone => ?_⟩
    obtain ⟨r, hr, hslice, hstatement⟩ := hwrites.of_size_one htail hle hone
    exact ⟨r, hslice, by rw [build_single hcolumns hr, hstatement]⟩

/-- The second of two chunks has one row, and is the insert of that row. -/
theorem chunks_repeat_single_ignored :
    RowsInMemory threeRows.rows ∧ ∃ c, threeRows.ignore.compile .sqlite 5 = .ok c
      ∧ c.chunks.map (·.statement.sql)
        = ["INSERT OR IGNORE INTO \"t\" (\"a\", \"b\") VALUES (?, ?), (?, ?)",
          "INSERT OR IGNORE INTO \"t\" (\"a\", \"b\") VALUES (?, ?)"]
      ∧ c.chunks.map Chunk.size = [2, 1]
      ∧ ∀ chunk ∈ c.chunks, chunk.size = 1 →
          ∃ r, (threeRows.ignore.single r).build .sqlite = .ok chunk.statement := by
  have hmem : RowsInMemory threeRows.rows := ⟨by decide, by decide +kernel⟩
  have hcompile : threeRows.ignore.compile .sqlite 5
      = .ok ⟨threeRows.ignore.frame .sqlite ["a", "b"], ⟨3, 2, 2⟩, 0, threeRows.rows⟩ := by rfl
  obtain ⟨_, _, _, _, hchunks⟩ :=
    chunks_repeat_single threeRows.ignore .sqlite 5 _ hmem (.inr rfl) hcompile
  refine ⟨hmem, _, hcompile, by decide +kernel, by rfl, fun chunk hchunk hone => ?_⟩
  obtain ⟨_, _, _, _, hbuild⟩ := hchunks chunk hchunk
  obtain ⟨r, _, hstatement⟩ := hbuild hone
  exact ⟨r, hstatement⟩

end BatchInsert

end BoundSql
