import BoundSql.Proofs.Batch.Insert
import BoundSql.Proofs.Varying.Statement

/-!
# Batches with values that vary

In every run the same columns are set in the rows of a batch, with other values
(`BatchDraft`).  Whether a batch is well formed depends on the columns of its rows only
(`BatchInsert.columns_congr`), and so does the text around the values.  A cursor goes
through the rows in the same steps in every run (`ChunkCursor.Steady`), and each step gives
out a chunk with the same text and the same range.

`Draft.values_only_bound` puts the results on single statements and on batches together:
values are bound, and nothing else depends on them.
-/

namespace BoundSql

variable {ι : Type} {V : Varying ι → Prop}

/-! ## Chunks -/

/-- A chunk with places for values that vary. -/
structure ChunkTemplate (ι : Type) where
  statement : Template ι
  start : UInt64
  stop : UInt64

/-- The chunk in a run. -/
def ChunkTemplate.chunk (t : ChunkTemplate ι) (i : ι) : Chunk :=
  ⟨t.statement.statement i, t.start, t.stop⟩

theorem ChunkFrame.steady_fragment (frame : ChunkFrame) {rows : ι → List Row}
    (h : Each (Row.Steady V) rows) : Fragment.Steady V fun i => frame.fragment (rows i) := by
  have htuples : Each (Fragment.Steady V) fun i => (rows i).map fun r => .tuple r.values :=
    h.map fun _ hr => hr.steady_tuple
  exact ((Fragment.steady_text frame.head).append
    (Fragment.steady_joined ", " htuples)).append (Fragment.steady_text frame.tail)

namespace ChunkCursor

variable {c : ι → ChunkCursor}

/-- The cursor stands at the same place in every run, before rows whose values vary. -/
def Steady (V : Varying ι → Prop) (c : ι → ChunkCursor) : Prop :=
  ∃ (frame : ChunkFrame) (plan : BatchPlan) (position : UInt64) (pending : ι → List Row),
    Each (Row.Steady V) pending ∧ c = fun i => ⟨frame, plan, position, pending i⟩

/-- There is a next chunk in every run or in none, and it is the same but for values that
vary. -/
theorem Steady.next? (hc : Steady V c) : (∀ i, (c i).next? = none)
    ∨ ∃ (t : ChunkTemplate ι) (rest : ι → ChunkCursor), (∀ v ∈ t.statement.params, V v)
      ∧ Steady V rest ∧ ∀ i, (c i).next? = some (t.chunk i, rest i) := by
  obtain ⟨frame, plan, position, pending, hpending, rfl⟩ := hc
  unfold ChunkCursor.next?
  by_cases hend : plan.totalRows ≤ position
  · exact Or.inl fun i => if_pos hend
  · simp only [if_neg hend, List.splitAt_eq]
    -- where the chunk ends depends on the place alone
    generalize min (position + plan.rowsPerChunk) plan.totalRows = stop
    obtain ⟨t, ht, heq⟩ := frame.steady_fragment (hpending.take (stop - position).toNat)
    refine Or.inr ⟨⟨t, position, stop⟩, _, ht,
      ⟨frame, plan, stop, _, hpending.drop (stop - position).toNat, rfl⟩, fun i => ?_⟩
    rw [ChunkTemplate.chunk, heq i]

/-- However many chunks are taken, they are the same in every run but for values that
vary. -/
theorem Steady.taken (n : Nat) : ∀ {c : ι → ChunkCursor}, Steady V c →
    ∃ chunks : List (ChunkTemplate ι), (∀ t ∈ chunks, ∀ v ∈ t.statement.params, V v)
      ∧ ∀ i, (ChunkCursor.taken n (c i)).map Prod.snd = chunks.map fun t => t.chunk i := by
  induction n with
  | zero => exact fun _ => ⟨[], fun _ ht => absurd ht List.not_mem_nil, fun _ => rfl⟩
  | succ n ih =>
      intro c hc
      rcases hc.next? with hnone | ⟨t, rest, ht, hrest, hsome⟩
      · refine ⟨[], fun _ ht => absurd ht List.not_mem_nil, fun i => ?_⟩
        rw [ChunkCursor.taken, hnone i]
        rfl
      · obtain ⟨chunks, hchunks, heq⟩ := ih hrest
        refine ⟨t :: chunks, List.forall_mem_cons.mpr ⟨ht, hchunks⟩, fun i => ?_⟩
        rw [ChunkCursor.taken, hsome i]
        exact congrArg (List.cons (t.chunk i)) (heq i)

end ChunkCursor

/-! ## Batches -/

namespace BatchInsert

theorem misshapen?_map (expected : List String) (rows : List Row) :
    (misshapen? expected rows).map (Prod.map id Row.columns)
      = ((rows.map Row.columns).zipIdx.find? fun e => e.1 != expected).map fun e => (e.2, e.1) := by
  rw [misshapen?, List.zipIdx_map, List.find?_map, Option.map_map, Option.map_map]
  rfl

/-- Whether a batch is well formed depends on the columns of its rows only. -/
theorem columns_congr {b b' : BatchInsert} (htable : b.table = b'.table) (hmode : b.mode = b'.mode)
    (hrows : b.rows.map Row.columns = b'.rows.map Row.columns) : b.columns = b'.columns := by
  rw [columns_eq, columns_eq, htable, hmode]
  cases hb : b.rows with
  | nil =>
      rw [hb, List.map_nil] at hrows
      rw [List.map_eq_nil_iff.mp hrows.symm]
  | cons first rest =>
      cases hb' : b'.rows with
      | nil =>
          rw [hb, hb'] at hrows
          cases hrows
      | cons first' rest' =>
          rw [hb, hb'] at hrows
          have hfirst : first.columns = first'.columns := (List.cons.inj hrows).1
          -- a row of another shape has the same number and the same columns in both batches
          have hshape := misshapen?_map first.columns (first :: rest)
          rw [hrows, ← misshapen?_map] at hshape
          simp only [Row.isEmpty_eq, hfirst] at hshape ⊢
          cases hm : misshapen? first'.columns (first :: rest) with
          | none =>
              rw [hm] at hshape
              rw [Option.map_eq_none_iff.mp hshape.symm]
          | some e =>
              rw [hm] at hshape
              obtain ⟨e', he', heq⟩ := Option.map_eq_some_iff.mp hshape.symm
              obtain ⟨hindex, hcolumns⟩ := Prod.mk.inj heq
              have hindex : e'.1 = e.1 := hindex
              simp only [he', hindex, hcolumns]

end BatchInsert

/-- A batch whose rows have values that vary. -/
structure BatchDraft (ι : Type) where
  table : String
  rows : List (RowDraft ι)
  mode : BatchMode := .insert
  conflictColumns : List String := []

namespace BatchDraft

/-- The batch in a run. -/
def batch (t : BatchDraft ι) (i : ι) : BatchInsert :=
  ⟨t.table, t.rows.map fun r => r.row i, t.mode, t.conflictColumns⟩

/-- The values that vary. -/
def values (t : BatchDraft ι) : List (Varying ι) := t.rows.flatMap RowDraft.values

theorem each_row (t : BatchDraft ι) :
    Each (Row.Steady (· ∈ t.values)) fun i => (t.batch i).rows := by
  refine ⟨t.rows.map fun r i => r.row i, ?_, funext fun i => ?_⟩
  · intro row hrow
    obtain ⟨r, hr, rfl⟩ := List.mem_map.mp hrow
    exact Row.steady_row fun v hv => List.mem_flatMap.mpr ⟨r, hr, hv⟩
  · rw [batch, List.map_map]
    rfl

theorem columns_eq (t : BatchDraft ι) (i j : ι) : (t.batch i).columns = (t.batch j).columns := by
  refine BatchInsert.columns_congr rfl rfl ?_
  rw [batch, batch, List.map_map, List.map_map]
  refine List.map_congr_left fun r _ => ?_
  have hrow : Row.Steady (· ∈ r.values) fun i => r.row i := Row.steady_row fun _ hv => hv
  obtain ⟨columns, hcolumns⟩ := hrow.columns_eq
  exact (hcolumns i).trans (hcolumns j).symm

/-- All runs of a batch are compiled to cursors that stand before the same chunks, or they
are refused for the same cause. -/
theorem alike_compile (t : BatchDraft ι) (d : Dialect) (maxParams : UInt64) :
    Alike (ChunkCursor.Steady (· ∈ t.values)) fun i => (t.batch i).compile d maxParams := by
  have hlength : ∀ i, (t.batch i).rows.length = t.rows.length := fun i => List.length_map _
  simp only [BatchInsert.compile_eq, hlength]
  refine (Alike.of_forall_eq t.columns_eq).bind ?_
  rintro _ ⟨columns, rfl⟩
  refine (Alike.of_forall_eq fun _ _ => rfl).bind ?_
  rintro _ ⟨plan, rfl⟩
  exact .ok ⟨BatchInsert.frame ⟨t.table, [], t.mode, t.conflictColumns⟩ d columns, plan, 0, _,
    t.each_row, rfl⟩

end BatchDraft

/-! ## Values are only bound -/

/-- Runs that differ in values only.  If a statement is made by the same calls in every run,
then all runs are refused, for the same cause, or they have the same text, and at each
position a parameter that is one and the same value of the calls.  This also holds of every
chunk of a batch, and the ranges of the chunks are the same.  Two runs are the case of an
`ι` with two members, and their parameters differ only where a value of the calls does. -/
theorem Draft.values_only_bound (d : Dialect) (maxParams : UInt64) :
    (∀ t : Draft ι,
        (∃ refusal, ∀ i, ((t.builder i).build d).mapError Refusal.withoutValue = .error refusal)
          ∨ ∃ template : Template ι, (∀ v ∈ template.params, v ∈ t.values)
            ∧ ∀ i, (t.builder i).build d = .ok (template.statement i))
      ∧ ∀ t : BatchDraft ι,
        (∃ refusal, ∀ i,
            ((t.batch i).compile d maxParams).mapError Refusal.withoutValue = .error refusal)
          ∨ ∃ cursor : ι → ChunkCursor, (∀ i, (t.batch i).compile d maxParams = .ok (cursor i))
            ∧ ∀ n, ∃ chunks : List (ChunkTemplate ι),
              (∀ chunk ∈ chunks, ∀ v ∈ chunk.statement.params, v ∈ t.values)
                ∧ ∀ i, ((cursor i).taken n).map Prod.snd
                    = chunks.map fun chunk => chunk.chunk i := by
  constructor
  · intro t
    rcases t.alike_build d with ⟨_, ⟨template, htemplate, hstatement⟩, hbuild⟩ | hrefused
    · exact Or.inr ⟨template, htemplate, fun i =>
        (hbuild i).trans (congrArg Except.ok (hstatement i))⟩
    · exact Or.inl hrefused
  · intro t
    rcases t.alike_compile d maxParams with ⟨cursor, hcursor, hcompile⟩ | hrefused
    · exact Or.inr ⟨cursor, hcompile, fun n => hcursor.taken n⟩
    · exact Or.inl hrefused

/-- One value in one run, and another in the other. -/
def Varying.either (v w : Value) (h : v.isScalar = w.isScalar) : Varying Bool where
  value i := if i then v else w
  scalar := w.isScalar
  isScalar_value
    | true => h
    | false => rfl

/-- An update with harmless values in one run, and with values that look like SQL in the
other. -/
def Draft.injected : Draft Bool :=
  .update "t"
    [.set "a" (.either (.text "x") (.text "'; DROP TABLE t; --") rfl),
     .filter (.and (.compare "id" "IN"
       (.list [.either (.int 1) (.text "?) OR (1 = 1") rfl, .either (.int 2) .null rfl])))]

/-- Both runs have the text of the harmless one. -/
theorem Draft.values_only_bound_injected : ∃ template : Template Bool,
    template.sql = "UPDATE \"t\" SET \"a\" = ? WHERE id IN (?, ?)"
      ∧ (∀ v ∈ template.params, v ∈ injected.values)
      ∧ ∀ i, (injected.builder i).build .sqlite = .ok (template.statement i) := by
  have hharmless : (injected.builder true).build .sqlite
      = .ok ⟨"UPDATE \"t\" SET \"a\" = ? WHERE id IN (?, ?)", [.text "x", .int 1, .int 2]⟩ := by
    rfl
  rcases (values_only_bound .sqlite 100).1 injected with ⟨refusal, hrefused⟩ | ⟨template, hvalues, hbuild⟩
  · have herror := hrefused true
    rw [hharmless] at herror
    cases herror
  · have hstatement := Except.ok.inj (hharmless.symm.trans (hbuild true))
    exact ⟨template, (congrArg Statement.sql hstatement).symm, hvalues, hbuild⟩

end BoundSql
