import BoundSql.Value

/-!
# Rows

A row gives values to columns.  The columns are distinct and keep the order in
which they were first set.  Setting a column that is there replaces its value in
place, setting a new one appends it.

`Row.columns_set` says what setting does to the columns, and that is all there
is to it: the distinctness of the columns is carried by the type.
-/

namespace BoundSql

/-! ## Assignment in a list of pairs -/

/-- Replaces the value of a column, or appends the column. -/
def assign (c : String) (v : Value) : List (String × Value) → List (String × Value)
  | [] => [(c, v)]
  | e :: rest => if e.1 = c then (c, v) :: rest else e :: assign c v rest

theorem map_fst_assign (c : String) (v : Value) (es : List (String × Value)) :
    (assign c v es).map Prod.fst
      = if c ∈ es.map Prod.fst then es.map Prod.fst else es.map Prod.fst ++ [c] := by
  induction es with
  | nil => simp [assign]
  | cons e rest ih =>
    by_cases h : e.1 = c
    · simp [assign, h]
    · have h' : c ≠ e.1 := fun hc => h hc.symm
      rw [assign, if_neg h, List.map_cons, ih]
      by_cases hm : c ∈ rest.map Prod.fst
      · simp [hm]
      · simp only [List.map_cons, List.mem_cons, hm, h', or_self, if_false, List.cons_append]

theorem nodup_assign {c : String} {v : Value} {es : List (String × Value)}
    (h : (es.map Prod.fst).Nodup) : ((assign c v es).map Prod.fst).Nodup := by
  rw [map_fst_assign]
  by_cases hm : c ∈ es.map Prod.fst
  · rwa [if_pos hm]
  · rw [if_neg hm, List.nodup_append]
    refine ⟨h, by simp, fun a ha b hb => ?_⟩
    rw [List.mem_singleton.mp hb]
    exact fun hac => hm (hac ▸ ha)

/-! ## Rows -/

/-- An ordered map from columns to values. -/
structure Row where
  /-- The columns with their values, in order of first assignment. -/
  entries : List (String × Value)
  /-- No column is there twice. -/
  nodup : (entries.map Prod.fst).Nodup
deriving Repr

namespace Row

/-- The row without columns. -/
def empty : Row := ⟨[], by simp⟩

instance : Inhabited Row := ⟨empty⟩

/-- Sets a column. -/
def set (r : Row) (c : String) (v : Value) : Row := ⟨assign c v r.entries, nodup_assign r.nodup⟩

/-- Sets columns one after the other. -/
def setAll (r : Row) (pairs : List (String × Value)) : Row :=
  pairs.foldl (fun r e => r.set e.1 e.2) r

/-- The row that results from setting columns one after the other. -/
def ofPairs (pairs : List (String × Value)) : Row := empty.setAll pairs

/-- The columns, in order. -/
def columns (r : Row) : List String := r.entries.map Prod.fst

/-- The values, in the order of their columns. -/
def values (r : Row) : List Value := r.entries.map Prod.snd

/-- The number of columns. -/
def size (r : Row) : Nat := r.entries.length

/-- There are no columns. -/
def isEmpty (r : Row) : Bool := r.entries.isEmpty

/-- The value of a column. -/
def get? (r : Row) (c : String) : Option Value := r.entries.lookup c

/-- The value at a position. -/
def at? (r : Row) (i : Nat) : Option Value := r.values[i]?

/-- The same columns in the same order with the same values, where doubles are
compared as numbers. -/
def same (r s : Row) : Bool := r.columns == s.columns && Value.same.sames r.values s.values

theorem columns_set (r : Row) (c : String) (v : Value) :
    (r.set c v).columns = if c ∈ r.columns then r.columns else r.columns ++ [c] :=
  map_fst_assign c v r.entries

/-! ## Tests -/

example : (ofPairs [("b", .int 1), ("a", .int 2), ("b", .int 3)]).columns = ["b", "a"] := by
  decide +kernel
example : ((ofPairs [("b", .int 1), ("a", .int 2), ("b", .int 3)]).values.map Value.inline)
    = ["3", "2"] := by
  decide +kernel

end Row

end BoundSql
