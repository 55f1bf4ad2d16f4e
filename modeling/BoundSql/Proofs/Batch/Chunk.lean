import BoundSql.Batch.Chunk
import BoundSql.Proofs.Batch.Plan
import BoundSql.Proofs.Fragment

/-!
# Chunks along a plan

A cursor that has given out the first `k` chunks of some rows is *at* `k`
(`ChunkCursor.At`): its position is where chunk `k` begins, or the end of the rows,
and the rows it still holds are those from there on.  One step takes a cursor from
`k` to `k + 1` and gives out chunk `k` of the plan (`ChunkCursor.At.next?_eq_some`),
until no row is left (`ChunkCursor.At.next?_eq_none`).  By induction on the chunks
that are left, the whole run of a cursor is known (`ChunkCursor.At.yields`).

The word arithmetic of a cursor is free of wraps wherever the cursor may get to
(`ChunkCursor.At.checkedNext_eq`, `ChunkCursor.At.checkedRemaining_eq`).
-/

namespace BoundSql

/-! ## The text and the parameters of a chunk -/

theorem Row.length_values (r : Row) : r.values.length = r.columns.length := by
  rw [values, columns, List.length_map, List.length_map]

theorem length_flatMap_values {rows : List Row} {columns : Nat}
    (h : ∀ r ∈ rows, r.values.length = columns) :
    (rows.flatMap Row.values).length = rows.length * columns := by
  induction rows with
  | nil => exact (Nat.zero_mul columns).symm
  | cons r rows ih =>
      rw [List.flatMap_cons, List.length_append, h r List.mem_cons_self,
        ih fun r hr => h r (List.mem_cons_of_mem _ hr), List.length_cons, Nat.succ_mul,
        Nat.add_comm]

/-- A group of placeholders, one for each of some columns. -/
def placeholderGroup (columns : Nat) : String :=
  "(" ++ String.intercalate ", " (List.replicate columns Value.placeholder) ++ ")"

namespace ChunkFrame

theorem params_fragment (frame : ChunkFrame) (rows : List Row) :
    (frame.fragment rows).params = rows.flatMap Row.values := by
  rw [fragment, Fragment.params_append, Fragment.params_append, Fragment.params_text,
    Fragment.params_text, List.nil_append, List.append_nil, Fragment.params_joined,
    List.flatMap_map]
  simp only [Fragment.params_tuple]

theorem sql_tuple (vs : List Value) : (Fragment.tuple vs).sql = placeholderGroup vs.length := by
  rw [Fragment.sql_eq_written, Fragment.written_tuple, placeholderGroup, List.map_const']

/-- Rows with `columns` values each become as many groups of `columns` placeholders. -/
theorem sql_fragment (frame : ChunkFrame) {rows : List Row} {columns : Nat}
    (h : ∀ r ∈ rows, r.values.length = columns) :
    (frame.fragment rows).sql = frame.head
      ++ String.intercalate ", " (List.replicate rows.length (placeholderGroup columns))
      ++ frame.tail := by
  have hgroups : rows.map (fun r => (Fragment.tuple r.values).sql)
      = List.replicate rows.length (placeholderGroup columns) := by
    rw [List.map_congr_left (fun r hr => by rw [sql_tuple, h r hr]), List.map_const']
  rw [Fragment.sql_eq_written, fragment, Fragment.written_append, Fragment.written_append,
    Fragment.written_text, Fragment.written_text, Fragment.written_joined, List.map_map,
    ← hgroups]
  simp only [Fragment.sql_eq_written]
  rfl

/-- The chunk of a plan with the given number. -/
def chunk (frame : ChunkFrame) (plan : BatchPlan) (rows : List Row) (k : Nat) : Chunk :=
  ⟨(frame.fragment (slice rows (plan.span k))).statement, (plan.span k).1, (plan.span k).2⟩

end ChunkFrame

namespace Chunk

/-- The rows of a chunk, as the first row and the row after the last. -/
def range (chunk : Chunk) : UInt64 × UInt64 := (chunk.start, chunk.stop)

/-- The number of rows in a chunk. -/
def size (chunk : Chunk) : Nat := chunk.stop.toNat - chunk.start.toNat

/-- The chunk writes the rows of its range, which have `columns` values each. -/
structure Writes (frame : ChunkFrame) (rows : List Row) (columns : Nat) (chunk : Chunk) :
    Prop where
  /-- The parameters are the values of these rows, row by row. -/
  params : chunk.statement.params = (slice rows chunk.range).flatMap Row.values
  /-- There is one parameter for each column of each row. -/
  length_params : chunk.statement.params.length = chunk.size * columns
  /-- There is one group of placeholders for each row. -/
  sql : chunk.statement.sql = frame.head
    ++ String.intercalate ", " (List.replicate chunk.size (placeholderGroup columns))
    ++ frame.tail

end Chunk

theorem ChunkFrame.chunk_writes (frame : ChunkFrame) {plan : BatchPlan} {rows : List Row}
    {columns k : Nat} (hvalues : ∀ r ∈ rows, r.values.length = columns)
    (hstop : (plan.span k).2.toNat ≤ rows.length) :
    (frame.chunk plan rows k).Writes frame rows columns := by
  have hsub : ∀ r ∈ slice rows (plan.span k), r.values.length = columns := fun r hr =>
    hvalues r (mem_of_mem_slice hr)
  have hsize : (slice rows (plan.span k)).length = (frame.chunk plan rows k).size :=
    length_slice hstop
  constructor
  · exact frame.params_fragment _
  · rw [← hsize, ← length_flatMap_values hsub]
    exact congrArg List.length (frame.params_fragment _)
  · rw [← hsize]
    exact frame.sql_fragment hsub

namespace ChunkCursor

/-! ## Runs of a cursor -/

/-- Asked again and again, the cursor gives out these chunks and then no more. -/
inductive Yields : ChunkCursor → List Chunk → Prop
  | done {c : ChunkCursor} : c.next? = none → Yields c []
  | more {c rest : ChunkCursor} {chunk : Chunk} {chunks : List Chunk} :
      c.next? = some (chunk, rest) → Yields rest chunks → Yields c (chunk :: chunks)

theorem Yields.taken_eq {c : ChunkCursor} {chunks : List Chunk} (h : Yields c chunks) :
    ∀ {n : Nat}, chunks.length ≤ n → (taken n c).map Prod.snd = chunks := by
  induction h with
  | done hnext =>
      intro n _
      cases n with
      | zero => rfl
      | succ n => rw [taken, hnext]; rfl
  | more hnext _ ih =>
      intro n hn
      cases n with
      | zero => cases hn
      | succ n =>
          rw [taken, hnext]
          show _ :: _ = _
          rw [ih (Nat.le_of_succ_le_succ hn)]

/-- The next chunk, by checked operations. -/
def checkedNext (c : ChunkCursor) : Option (Option (Chunk × ChunkCursor)) :=
  if c.plan.totalRows ≤ c.position then some none
  else do
    let full ← Checked.add c.position c.plan.rowsPerChunk
    let stop := min full c.plan.totalRows
    let count ← Checked.sub stop c.position
    let (rows, rest) := c.pending.splitAt count.toNat
    pure (some (⟨(c.frame.fragment rows).statement, c.position, stop⟩,
      { c with position := stop, pending := rest }))

/-- The number of chunks still to come, by checked operations. -/
def checkedRemaining (c : ChunkCursor) : Option UInt64 := do
  let rows ← Checked.sub c.plan.totalRows c.position
  Checked.divCeil rows c.plan.rowsPerChunk

/-! ## Places along a plan -/

/-- The cursor has given out the first `k` chunks of the rows. -/
structure At (rows : List Row) (k : Nat) (c : ChunkCursor) : Prop where
  /-- The plan is one for rows in memory. -/
  inMemory : c.plan.InMemory
  /-- The plan counts the rows. -/
  total : c.plan.totalRows.toNat = rows.length
  /-- The position is the beginning of chunk `k`, or the end. -/
  position : c.position.toNat = min (k * c.plan.rowsPerChunk.toNat) rows.length
  /-- The rows from the position on are pending. -/
  pending : c.pending = rows.drop c.position.toNat

variable {rows : List Row} {k : Nat} {c : ChunkCursor}

theorem At.position_le (h : At rows k c) : c.position.toNat ≤ c.plan.totalRows.toNat := by
  rw [h.position, h.total]
  exact Nat.min_le_right _ _

theorem At.position_eq (h : At rows k c) (hk : k < c.plan.chunkCount.toNat) :
    c.position = (c.plan.span k).1 := by
  have hlt := (BatchPlan.lt_chunkCount h.inMemory k).mp hk
  apply UInt64.toNat_inj.mp
  rw [BatchPlan.toNat_span_fst h.inMemory.step_pos hlt, h.position, ← h.total,
    Nat.min_eq_left (Nat.le_of_lt hlt)]

theorem At.not_le (h : At rows k c) (hk : k < c.plan.chunkCount.toNat) :
    ¬ c.plan.totalRows ≤ c.position := by
  have hlt := (BatchPlan.lt_chunkCount h.inMemory k).mp hk
  rw [UInt64.le_iff_toNat_le, h.position, ← h.total]
  omega

theorem At.le (h : At rows k c) (hk : ¬ k < c.plan.chunkCount.toNat) :
    c.plan.totalRows ≤ c.position := by
  have hge := mt (BatchPlan.lt_chunkCount h.inMemory k).mpr hk
  rw [UInt64.le_iff_toNat_le, h.position, ← h.total]
  omega

/-- The end of chunk `k`, as the cursor computes it. -/
theorem At.min_eq (h : At rows k c) (hk : k < c.plan.chunkCount.toNat) :
    min (c.position + c.plan.rowsPerChunk) c.plan.totalRows = (c.plan.span k).2 := by
  rw [h.position_eq hk]
  rfl

theorem At.position_le_stop (h : At rows k c) (hk : k < c.plan.chunkCount.toNat) :
    c.position.toNat ≤ (c.plan.span k).2.toNat := by
  have hlt := (BatchPlan.lt_chunkCount h.inMemory k).mp hk
  rw [BatchPlan.toNat_span_snd h.inMemory hlt, h.position, ← h.total, Nat.succ_mul]
  omega

theorem At.toNat_sub (h : At rows k c) (hk : k < c.plan.chunkCount.toNat) :
    ((c.plan.span k).2 - c.position).toNat = (c.plan.span k).2.toNat - c.position.toNat :=
  UInt64.toNat_sub_of_le _ _ (UInt64.le_iff_toNat_le.mpr (h.position_le_stop hk))

/-- The place after chunk `k`. -/
theorem At.succ (h : At rows k c) (hk : k < c.plan.chunkCount.toNat) :
    At rows (k + 1) { c with position := (c.plan.span k).2,
                             pending := rows.drop (c.plan.span k).2.toNat } where
  inMemory := h.inMemory
  total := h.total
  position := by
    have hlt := (BatchPlan.lt_chunkCount h.inMemory k).mp hk
    rw [BatchPlan.toNat_span_snd h.inMemory hlt, h.total]
  pending := rfl

/-- A step gives out chunk `k`. -/
theorem At.next?_eq_some (h : At rows k c) (hk : k < c.plan.chunkCount.toNat) :
    c.next? = some (c.frame.chunk c.plan rows k,
      { c with position := (c.plan.span k).2,
               pending := rows.drop (c.plan.span k).2.toNat }) := by
  have hrows : (rows.drop c.position.toNat).take ((c.plan.span k).2.toNat - c.position.toNat)
      = slice rows (c.plan.span k) := by
    rw [slice, List.extract_eq_take_drop, h.position_eq hk]
  have hrest : c.position.toNat + ((c.plan.span k).2.toNat - c.position.toNat)
      = (c.plan.span k).2.toNat := by
    have hle := h.position_le_stop hk
    omega
  rw [next?, if_neg (h.not_le hk)]
  simp only [List.splitAt_eq, h.min_eq hk, h.toNat_sub hk, h.pending, List.drop_drop, hrows, hrest]
  rw [ChunkFrame.chunk, ← h.position_eq hk]

/-- After the last chunk there is none. -/
theorem At.next?_eq_none (h : At rows k c) (hk : ¬ k < c.plan.chunkCount.toNat) :
    c.next? = none := by
  rw [next?, if_pos (h.le hk)]

/-- A cursor at `k` gives out the chunks from number `k` on. -/
theorem At.yields : ∀ {n k : Nat} {c : ChunkCursor}, At rows k c →
    k + n = c.plan.chunkCount.toNat →
      Yields c ((List.range' k n).map (c.frame.chunk c.plan rows))
  | 0, _, _, h, hn => .done (h.next?_eq_none (by omega))
  | n + 1, k, c, h, hn => by
      have hk : k < c.plan.chunkCount.toNat := by omega
      have hrest : k + 1 + n = c.plan.chunkCount.toNat := by omega
      exact .more (h.next?_eq_some hk) ((h.succ hk).yields hrest)

/-- Wherever a cursor goes from a place along a plan, it is at such a place. -/
theorem At.advance : ∀ {n k : Nat} {c : ChunkCursor}, At rows k c →
    ∃ j, At rows j (c.advance n)
  | 0, k, _, h => ⟨k, h⟩
  | n + 1, k, c, h => by
      by_cases hk : k < c.plan.chunkCount.toNat
      · rw [ChunkCursor.advance, h.next?_eq_some hk]
        exact (h.succ hk).advance
      · rw [ChunkCursor.advance, h.next?_eq_none hk]
        exact ⟨k, h⟩

/-! ## No wraps -/

/-- The row after a full chunk is a word. -/
theorem At.position_add_lt (h : At rows k c) (hk : k < c.plan.chunkCount.toNat) :
    c.position.toNat + c.plan.rowsPerChunk.toNat < UInt64.size := by
  have hlt := (BatchPlan.lt_chunkCount h.inMemory k).mp hk
  rw [h.position_eq hk, BatchPlan.toNat_span_fst h.inMemory.step_pos hlt]
  exact BatchPlan.start_add_lt h.inMemory hlt

theorem At.checkedNext_eq (h : At rows k c) : c.checkedNext = some c.next? := by
  by_cases hk : k < c.plan.chunkCount.toNat
  · have hsub : Checked.sub (c.plan.span k).2 c.position
        = some ((c.plan.span k).2 - c.position) :=
      Checked.sub_eq (h.position_le_stop hk)
    rw [checkedNext, next?, if_neg (h.not_le hk), if_neg (h.not_le hk)]
    simp only [Checked.add_eq (h.position_add_lt hk), h.min_eq hk, hsub, Option.bind_eq_bind,
      Option.bind_some]
    rfl
  · rw [checkedNext, next?, if_pos (h.le hk), if_pos (h.le hk)]

theorem At.checkedRemaining_eq (h : At rows k c) : c.checkedRemaining = some c.remaining := by
  rw [checkedRemaining, Checked.sub_eq h.position_le]
  exact Checked.divCeil_eq h.inMemory.step_pos

end ChunkCursor

end BoundSql
