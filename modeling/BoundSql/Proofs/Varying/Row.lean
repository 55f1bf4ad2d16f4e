import BoundSql.Proofs.Varying
import BoundSql.Row

/-!
# Rows with values that vary

In every run the same columns are set, with other values (`RowDraft`).  Then the row has
the same columns in every run, and the value of a column is one that was set
(`Row.Steady`).
-/

namespace BoundSql

variable {ι : Type} {V : Varying ι → Prop}

/-- The columns that are set, one after the other, with values that vary. -/
abbrev RowDraft (ι : Type) := List (String × Varying ι)

namespace RowDraft

/-- The columns and the values in a run. -/
def pairs (r : RowDraft ι) (i : ι) : List (String × Value) := r.map fun e => (e.1, e.2.value i)

/-- The row in a run. -/
def row (r : RowDraft ι) (i : ι) : Row := .ofPairs (r.pairs i)

/-- The values that are set. -/
def values (r : RowDraft ι) : List (Varying ι) := r.map Prod.snd

/-- Where a column is put does not depend on the run. -/
theorem exists_assign (column : String) {v : Varying ι} (hv : V v) : ∀ {es : RowDraft ι},
    (∀ e ∈ es, V e.2) → ∃ es' : RowDraft ι, (∀ e ∈ es', V e.2)
      ∧ ∀ i, assign column (v.value i) (es.pairs i) = es'.pairs i
  | [], _ => ⟨[(column, v)], List.forall_mem_singleton.mpr hv, fun _ => rfl⟩
  | e :: es, h => by
      obtain ⟨he, hes⟩ := List.forall_mem_cons.mp h
      by_cases hcolumn : e.1 = column
      · refine ⟨(column, v) :: es, List.forall_mem_cons.mpr ⟨hv, hes⟩, fun i => ?_⟩
        exact if_pos hcolumn
      · obtain ⟨es', hes', heq⟩ := exists_assign column hv hes
        refine ⟨e :: es', List.forall_mem_cons.mpr ⟨he, hes'⟩, fun i => ?_⟩
        exact (if_neg hcolumn).trans (congrArg (List.cons (e.1, e.2.value i)) (heq i))

end RowDraft

namespace Row

variable {r : ι → Row}

/-- The row has the same columns in every run, with values that vary. -/
def Steady (V : Varying ι → Prop) (r : ι → Row) : Prop :=
  ∃ es : RowDraft ι, (∀ e ∈ es, V e.2) ∧ ∀ i, (r i).entries = es.pairs i

theorem steady_row {draft : RowDraft ι} (h : ∀ v ∈ draft.values, V v) :
    Steady V fun i => draft.row i := by
  have hset : ∀ e ∈ draft, ∀ r : ι → Row, Steady V r →
      Steady V fun i => (r i).set e.1 (e.2.value i) := by
    rintro e he r ⟨es, hes, heq⟩
    obtain ⟨es', hes', heq'⟩ :=
      RowDraft.exists_assign e.1 (h e.2 (List.mem_map_of_mem he)) hes
    refine ⟨es', hes', fun i => ?_⟩
    rw [← heq' i, ← heq i]
    rfl
  have hempty : Steady V fun _ : ι => empty :=
    ⟨[], fun _ he => absurd he List.not_mem_nil, fun _ => rfl⟩
  have hrow : (fun i => draft.row i)
      = fun i => draft.foldl (fun r e => r.set e.1 (e.2.value i)) empty := by
    funext i
    rw [RowDraft.row, RowDraft.pairs, ofPairs, setAll, List.foldl_map]
  rw [hrow]
  exact preserved_foldl hset _ hempty

theorem Steady.columns_eq (h : Steady V r) : ∃ columns, ∀ i, (r i).columns = columns := by
  obtain ⟨es, _, heq⟩ := h
  refine ⟨es.map Prod.fst, fun i => ?_⟩
  rw [columns, heq i, RowDraft.pairs, List.map_map]
  rfl

theorem isEmpty_eq (r : Row) : r.isEmpty = r.columns.isEmpty := by
  rw [isEmpty, columns]
  cases r.entries <;> rfl

theorem Steady.steady_tuple (h : Steady V r) : Fragment.Steady V fun i => .tuple (r i).values := by
  obtain ⟨es, hes, heq⟩ := h
  have hvalues : ∀ i, (r i).values = (es.map Prod.snd).map fun v => v.value i := by
    intro i
    rw [values, heq i, RowDraft.pairs, List.map_map, List.map_map]
    rfl
  simp only [hvalues]
  refine Fragment.steady_tuple fun v hv => ?_
  obtain ⟨e, he, rfl⟩ := List.mem_map.mp hv
  exact hes e he

/-- What is made of the columns one by one has a property if this is so of any column with
a value that varies. -/
theorem Steady.each_entry {α : Type} {Q : (ι → α) → Prop} {f : String × Value → α}
    (h : Steady V r) (hf : ∀ column v, V v → Q fun i => f (column, v.value i)) :
    Each Q fun i => (r i).entries.map f := by
  obtain ⟨es, hes, heq⟩ := h
  refine ⟨es.map fun e i => f (e.1, e.2.value i), ?_, funext fun i => ?_⟩
  · intro a ha
    obtain ⟨e, he, rfl⟩ := List.mem_map.mp ha
    exact hf e.1 e.2 (hes e he)
  · rw [heq i, RowDraft.pairs, List.map_map, List.map_map]
    rfl

end Row

end BoundSql
