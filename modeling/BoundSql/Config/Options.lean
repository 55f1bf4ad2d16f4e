/-!
# Options

Options are a map from keys to texts.  The keys are kept in ascending order, which
is the order of their bytes, so a map has one list of entries and its first
offending entry is a matter of the map alone.
-/

namespace BoundSql

/-! ## Sorted entries -/

/-- Sets a key in a list of entries that is sorted by key. -/
def insertEntry (key value : String) : List (String × String) → List (String × String)
  | [] => [(key, value)]
  | e :: rest =>
      if key < e.1 then (key, value) :: e :: rest
      else if key = e.1 then (key, value) :: rest
      else e :: insertEntry key value rest

theorem lt_of_not_lt_of_ne {a b : String} (h : ¬a < b) (hne : a ≠ b) : b < a := by
  by_cases hba : b < a
  · exact hba
  · exact absurd (String.le_antisymm (String.not_lt.mp hba) (String.not_lt.mp h)) hne

theorem mem_insertEntry {key value : String} {es : List (String × String)}
    {x : String × String} (h : x ∈ insertEntry key value es) : x = (key, value) ∨ x ∈ es := by
  induction es with
  | nil => exact Or.inl (List.mem_singleton.mp h)
  | cons e rest ih =>
    rw [insertEntry] at h
    split at h
    · exact List.mem_cons.mp h
    · split at h
      · exact (List.mem_cons.mp h).imp_right (List.mem_cons_of_mem e)
      · rcases List.mem_cons.mp h with rfl | hx
        · exact Or.inr List.mem_cons_self
        · exact (ih hx).imp_right (List.mem_cons_of_mem e)

/-- The keys ascend. -/
abbrev Ascending (es : List (String × String)) : Prop := es.Pairwise fun a b => a.1 < b.1

theorem ascending_insertEntry {key value : String} {es : List (String × String)}
    (h : Ascending es) : Ascending (insertEntry key value es) := by
  induction es with
  | nil => exact List.pairwise_singleton _ _
  | cons e rest ih =>
    obtain ⟨hhead, htail⟩ := List.pairwise_cons.mp h
    rw [insertEntry]
    split
    next hlt =>
      refine List.pairwise_cons.mpr ⟨fun x hx => ?_, h⟩
      rcases List.mem_cons.mp hx with rfl | hx
      · exact hlt
      · exact String.lt_trans hlt (hhead x hx)
    next hnot =>
      split
      next heq =>
        exact List.pairwise_cons.mpr ⟨fun x hx => heq ▸ hhead x hx, htail⟩
      next hne =>
        refine List.pairwise_cons.mpr ⟨fun x hx => ?_, ih htail⟩
        rcases mem_insertEntry hx with rfl | hx
        · exact lt_of_not_lt_of_ne hnot hne
        · exact hhead x hx

/-! ## Maps -/

/-- A map from keys to texts. -/
structure Options where
  /-- The entries in order of their keys. -/
  entries : List (String × String) := []
  ascending : Ascending entries := by exact List.Pairwise.nil
deriving Repr, DecidableEq

namespace Options

/-- The map without entries. -/
def empty : Options := {}

instance : Inhabited Options := ⟨empty⟩

/-- Sets a key. -/
def set (o : Options) (key value : String) : Options :=
  ⟨insertEntry key value o.entries, ascending_insertEntry o.ascending⟩

/-- The map that results from setting keys one after the other. -/
def ofList (pairs : List (String × String)) : Options :=
  pairs.foldl (fun o e => o.set e.1 e.2) empty

/-! ## Tests -/

example : (ofList [("b", "1"), ("a", "2"), ("b", "3")]).entries = [("a", "2"), ("b", "3")] := by
  decide +kernel

end Options

end BoundSql
