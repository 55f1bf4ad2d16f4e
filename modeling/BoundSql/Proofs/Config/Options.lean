import BoundSql.Config.Options
import Mathlib.Data.List.Nodup

/-!
# Options from entries in any order

An options map is determined by its entries as a collection.  Setting distinct keys one after the
other gives the map with these entries, whatever their order (`Options.ofList_of_perm`).
-/

namespace BoundSql

theorem perm_insertEntry {key value : String} {es : List (String × String)}
    (h : key ∉ es.map Prod.fst) : (insertEntry key value es).Perm ((key, value) :: es) := by
  induction es with
  | nil => exact .refl _
  | cons e es ih =>
    rw [List.map_cons, List.mem_cons, not_or] at h
    rw [insertEntry]
    by_cases hlt : key < e.1
    · rw [if_pos hlt]
    · rw [if_neg hlt, if_neg h.1]
      exact ((ih h.2).cons e).trans (.swap _ _ _)

theorem nodup_of_ascending {es : List (String × String)} (h : Ascending es) :
    (es.map Prod.fst).Nodup := by
  refine List.pairwise_map.mpr (h.imp ?_)
  rintro a b hlt heq
  rw [heq] at hlt
  exact String.lt_irrefl _ hlt

namespace Options

theorem perm_entries_foldl {pairs : List (String × String)} {o : Options}
    (h : ((pairs ++ o.entries).map Prod.fst).Nodup) :
    (pairs.foldl (fun o e => o.set e.1 e.2) o).entries.Perm (pairs ++ o.entries) := by
  induction pairs generalizing o with
  | nil => exact .refl _
  | cons e pairs ih =>
    have hmiddle : (pairs ++ e :: o.entries).Perm (e :: pairs ++ o.entries) := List.perm_middle
    have hkey : e.1 ∉ o.entries.map Prod.fst := by
      rw [List.cons_append, List.map_cons, List.map_append] at h
      exact fun hmem => (List.nodup_cons.mp h).1 (List.mem_append_right _ hmem)
    have hset : (o.set e.1 e.2).entries.Perm (e :: o.entries) := perm_insertEntry hkey
    have hperm : (pairs ++ (o.set e.1 e.2).entries).Perm (e :: pairs ++ o.entries) :=
      (hset.append_left pairs).trans hmiddle
    exact (ih ((hperm.map Prod.fst).nodup_iff.mpr h)).trans hperm

theorem ext_entries {o o' : Options} (h : o.entries = o'.entries) : o = o' := by
  cases o
  cases o'
  cases h
  rfl

/-- The order in which distinct keys are set does not matter. -/
theorem ofList_of_perm {pairs : List (String × String)} {o : Options} (h : pairs.Perm o.entries) :
    ofList pairs = o := by
  have hnodup : ((pairs ++ empty.entries).map Prod.fst).Nodup := by
    rw [show pairs ++ empty.entries = pairs from List.append_nil pairs, (h.map Prod.fst).nodup_iff]
    exact nodup_of_ascending o.ascending
  have hperm : (ofList pairs).entries.Perm o.entries := by
    have hfold := perm_entries_foldl hnodup
    rw [show pairs ++ empty.entries = pairs from List.append_nil pairs] at hfold
    exact hfold.trans h
  have hentries : (ofList pairs).entries = o.entries :=
    hperm.eq_of_pairwise
      (fun _ _ _ _ hab hba => absurd (String.lt_trans hab hba) (String.lt_irrefl _))
      (ofList pairs).ascending o.ascending
  exact ext_entries hentries

end Options

end BoundSql
