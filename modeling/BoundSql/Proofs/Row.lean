import BoundSql.Row
import Mathlib.Data.List.Induction

/-!
# Rows as ordered maps

The laws of setting and looking up columns: a column that is set has its new value and the others
have theirs (`Row.get?_set`), the last of two values of a column stays, columns that are there may
be set in any order, and the entries of a row make the same row (`Row.Lawful`).

Columns and values may also be kept side by side, with nothing that says that there are as many of
one as of the other.  A column is then looked for by its position, and its value is the one at the
same position, if there is one (`Row.Parts`).  From the empty row on there always is one.  Whatever
is set one after the other (`Row.Made`), the parts are those of the row, the columns stand in the
order in which they were first set, and each has the value that was set last (`Row.Holds`).
-/

namespace BoundSql

/-! ## Setting columns -/

section

variable {c d : String} {v w : Value} {es : List (String × Value)}

theorem lookup_cons_eq {α : Type} (c : String) (e : String × α) (es : List (String × α)) :
    (e :: es).lookup c = if c = e.1 then some e.2 else es.lookup c := by
  rw [List.lookup_cons]
  by_cases h : c = e.1
  · rw [if_pos h, beq_iff_eq.mpr h]
  · rw [if_neg h, beq_eq_false_iff_ne.mpr h]

theorem lookup_of_not_mem {α : Type} {es : List (String × α)} (h : c ∉ es.map Prod.fst) :
    es.lookup c = none := by
  refine List.lookup_eq_none_iff.mpr fun e he => bne_iff_ne.mpr ?_
  rintro rfl
  exact h (List.mem_map_of_mem he)

theorem lookup_assign (c c' : String) (v : Value) (es : List (String × Value)) :
    (assign c v es).lookup c' = if c' = c then some v else es.lookup c' := by
  induction es with
  | nil => rw [assign, lookup_cons_eq]
  | cons e es ih =>
    rw [assign]
    by_cases he : e.1 = c
    · rw [if_pos he, lookup_cons_eq, lookup_cons_eq, he]
      by_cases h : c' = c
      · rw [if_pos h, if_pos h]
      · rw [if_neg h, if_neg h, if_neg h]
    · rw [if_neg he, lookup_cons_eq, ih, lookup_cons_eq]
      by_cases h : c' = c
      · rw [if_pos h, if_neg (fun h' => he (h'.symm.trans h)), if_pos h]
      · rw [if_neg h, if_neg h]

theorem mem_assign {e : String × Value} (h : e ∈ assign c v es) : e = (c, v) ∨ e ∈ es := by
  induction es with
  | nil => exact .inl (List.mem_singleton.mp h)
  | cons e' es ih =>
    rw [assign] at h
    split at h
    · rcases List.mem_cons.mp h with rfl | h
      · exact .inl rfl
      · exact .inr (List.mem_cons_of_mem _ h)
    · rcases List.mem_cons.mp h with rfl | h
      · exact .inr List.mem_cons_self
      · exact (ih h).imp_right (List.mem_cons_of_mem _)

theorem assign_cons_self (c : String) (v u : Value) (es : List (String × Value)) :
    assign c v ((c, u) :: es) = (c, v) :: es :=
  if_pos rfl

theorem assign_cons_of_ne {e : String × Value} (h : e.1 ≠ c) (v : Value)
    (es : List (String × Value)) : assign c v (e :: es) = e :: assign c v es :=
  if_neg h

theorem assign_of_not_mem (v : Value) (h : c ∉ es.map Prod.fst) :
    assign c v es = es ++ [(c, v)] := by
  induction es with
  | nil => rfl
  | cons e es ih =>
    rw [List.map_cons, List.mem_cons, not_or] at h
    rw [assign_cons_of_ne (Ne.symm h.1), ih h.2, List.cons_append]

/-- The last of two values of a column stays. -/
theorem assign_assign (c : String) (v w : Value) (es : List (String × Value)) :
    assign c w (assign c v es) = assign c w es := by
  induction es with
  | nil => exact if_pos rfl
  | cons e es ih =>
    obtain ⟨c', u⟩ := e
    by_cases he : c' = c
    · subst he
      rw [assign_cons_self, assign_cons_self, assign_cons_self]
    · rw [assign_cons_of_ne he, assign_cons_of_ne he, assign_cons_of_ne he, ih]

/-- Columns that are there may be set in any order. -/
theorem assign_comm (hne : d ≠ c) (hc : c ∈ es.map Prod.fst) (hd : d ∈ es.map Prod.fst) :
    assign d w (assign c v es) = assign c v (assign d w es) := by
  induction es with
  | nil => cases hc
  | cons e es ih =>
    obtain ⟨c', u⟩ := e
    by_cases hec : c' = c
    · subst hec
      rw [assign_cons_self, assign_cons_of_ne hne.symm, assign_cons_of_ne hne.symm,
        assign_cons_self]
    · by_cases hed : c' = d
      · subst hed
        rw [assign_cons_of_ne hne, assign_cons_self, assign_cons_self, assign_cons_of_ne hne]
      · rw [assign_cons_of_ne hec, assign_cons_of_ne hed, assign_cons_of_ne hed,
          assign_cons_of_ne hec, ih ((List.mem_cons.mp hc).resolve_left (Ne.symm hec))
            ((List.mem_cons.mp hd).resolve_left (Ne.symm hed))]

/-- At the position of a column stands its value, and there its new value goes. -/
theorem entry_of_position {i : Nat} (h : (es.map Prod.fst).findIdx? (· == c) = some i) :
    ∃ u, es[i]? = some (c, u) ∧ es.lookup c = some u ∧ ∀ v, assign c v es = es.set i (c, v) := by
  induction es generalizing i with
  | nil => cases h
  | cons e es ih =>
    obtain ⟨c', u⟩ := e
    rw [List.map_cons, List.findIdx?_cons] at h
    by_cases he : c' = c
    · subst he
      rw [if_pos (beq_self_eq_true c')] at h
      cases h
      exact ⟨u, rfl, by rw [lookup_cons_eq, if_pos rfl], fun v => assign_cons_self c' v u es⟩
    · rw [if_neg (by simpa using he)] at h
      obtain ⟨j, hj, rfl⟩ := Option.map_eq_some_iff.mp h
      obtain ⟨u', hget, hlookup, hassign⟩ := ih hj
      refine ⟨u', hget, by rw [lookup_cons_eq, if_neg (Ne.symm he), hlookup], fun v => ?_⟩
      rw [assign_cons_of_ne he, hassign, List.set_cons_succ]

theorem not_mem_of_position (h : (es.map Prod.fst).findIdx? (· == c) = none) :
    c ∉ es.map Prod.fst := by
  intro hc
  exact absurd (List.findIdx?_eq_none_iff.mp h c hc) (by simp)

end

theorem eraseDups_append_singleton (cs : List String) (c : String) :
    (cs ++ [c]).eraseDups = if c ∈ cs then cs.eraseDups else cs.eraseDups ++ [c] := by
  rw [List.eraseDups_append]
  by_cases hc : c ∈ cs
  · have hremove : [c].removeAll cs = [] := by
      rw [List.cons_removeAll, if_neg (by simpa using hc)]
      rfl
    rw [if_pos hc, hremove, List.eraseDups_nil, List.append_nil]
  · have hremove : [c].removeAll cs = [c] := by
      rw [List.cons_removeAll, if_pos (by simpa using hc)]
      rfl
    rw [if_neg hc, hremove]
    rfl

namespace Row

/-! ## Laws -/

theorem eq_of_entries {r s : Row} (h : r.entries = s.entries) : r = s := by
  cases r
  cases s
  cases h
  rfl

theorem get?_set (r : Row) (c c' : String) (v : Value) :
    (r.set c v).get? c' = if c' = c then some v else r.get? c' :=
  lookup_assign c c' v r.entries

/-- Columns that are not there yet are appended one by one. -/
theorem entries_setAll {r : Row} {es : List (String × Value)}
    (h : ((r.entries ++ es).map Prod.fst).Nodup) : (r.setAll es).entries = r.entries ++ es := by
  induction es generalizing r with
  | nil => exact (List.append_nil _).symm
  | cons e es ih =>
    have hnew : e.1 ∉ r.columns := by
      rw [List.map_append, List.map_cons] at h
      exact fun hmem => (List.nodup_append.mp h).2.2 _ hmem _ List.mem_cons_self rfl
    have hentries : (r.set e.1 e.2).entries = r.entries ++ [e] := assign_of_not_mem _ hnew
    rw [setAll, List.foldl_cons, ← setAll, ih, hentries, List.append_assoc,
      List.singleton_append]
    rwa [hentries, List.append_assoc, List.singleton_append]

theorem ofPairs_entries (r : Row) : ofPairs r.entries = r :=
  eq_of_entries (entries_setAll (r := empty) r.nodup)

theorem zip_columns_values (r : Row) : r.columns.zip r.values = r.entries := by
  rw [columns, values, List.zip_map', List.map_id'']
  exact fun _ => rfl

/-! ## Columns and values side by side -/

/-- Columns and values side by side, not necessarily as many of one as of the other. -/
structure Parts where
  columns : List String
  values : List Value

namespace Parts

/-- The value of a column.  There is no answer if the column stands where no value does. -/
def get? (p : Parts) (c : String) : Option (Option Value) :=
  match p.columns.findIdx? (· == c) with
  | some i => p.values[i]?.map some
  | none => some none

/-- Sets a column, where it stands or at the end.  There is no answer if the column stands where no
value does. -/
def set? (p : Parts) (c : String) (v : Value) : Option Parts :=
  match p.columns.findIdx? (· == c) with
  | some i => p.values[i]?.map fun _ => { p with values := p.values.set i v }
  | none => some ⟨p.columns ++ [c], p.values ++ [v]⟩

/-- Sets columns one after the other. -/
def setAll? (p : Parts) (pairs : List (String × Value)) : Option Parts :=
  pairs.foldlM (fun p e => p.set? e.1 e.2) p

end Parts

/-- The columns and the values of a row. -/
def parts (r : Row) : Parts := ⟨r.columns, r.values⟩

theorem parts_eq (r : Row) : r.parts = ⟨r.columns, r.values⟩ := rfl

theorem columns_set_of_mem {r : Row} {c : String} (h : c ∈ r.columns) (v : Value) :
    (r.set c v).columns = r.columns := by
  rw [columns_set, if_pos h]

theorem columns_set_of_not_mem {r : Row} {c : String} (h : c ∉ r.columns) (v : Value) :
    (r.set c v).columns = r.columns ++ [c] := by
  rw [columns_set, if_neg h]

theorem getElem?_values (r : Row) (i : Nat) : r.values[i]? = r.entries[i]?.map Prod.snd :=
  List.getElem?_map

/-- Looking for the position of a column and taking the value that stands there is looking up the
column. -/
theorem get?_parts (r : Row) (c : String) : r.parts.get? c = some (r.get? c) := by
  unfold Parts.get?
  split
  next i hi =>
    obtain ⟨u, hentry, hlookup, -⟩ := entry_of_position hi
    show r.values[i]?.map some = _
    rw [getElem?_values, hentry, get?, hlookup]
    rfl
  next hnone => rw [get?, lookup_of_not_mem (not_mem_of_position hnone)]

/-- Putting a value where the column stands, or both at the end, is setting the column. -/
theorem set?_parts (r : Row) (c : String) (v : Value) :
    r.parts.set? c v = some (r.set c v).parts := by
  unfold Parts.set?
  split
  next i hi =>
    obtain ⟨u, hentry, -, hassign⟩ := entry_of_position hi
    have hc : c ∈ r.columns := List.mem_map_of_mem (List.mem_of_getElem? hentry)
    have hset : (r.set c v).values = r.values.set i v :=
      (congrArg (List.map Prod.snd) (hassign v)).trans List.map_set
    show r.values[i]?.map _ = _
    rw [getElem?_values, hentry, parts_eq (r.set c v), columns_set_of_mem hc, hset]
    rfl
  next hnone =>
    have hc : c ∉ r.columns := not_mem_of_position hnone
    have hset : (r.set c v).values = r.values ++ [v] :=
      (congrArg (List.map Prod.snd) (assign_of_not_mem v hc)).trans List.map_append
    rw [parts_eq (r.set c v), columns_set_of_not_mem hc, hset]
    rfl

/-- The laws of setting and looking up the columns of a row. -/
structure Lawful (r : Row) : Prop where
  /-- A column that is set has its value. -/
  get?_set_self : ∀ c v, (r.set c v).get? c = some v
  /-- The other columns keep theirs. -/
  get?_set_of_ne : ∀ c d v, d ≠ c → (r.set c v).get? d = r.get? d
  /-- The last of two values of a column stays. -/
  set_set : ∀ c v w, (r.set c v).set c w = r.set c w
  /-- A column that is there stays where it is. -/
  columns_of_mem : ∀ c v, c ∈ r.columns → (r.set c v).columns = r.columns
  /-- A new column is the last one. -/
  columns_of_not_mem : ∀ c v, c ∉ r.columns → (r.set c v).columns = r.columns ++ [c]
  /-- Columns that are there may be set in any order. -/
  set_comm : ∀ c d v w, d ≠ c → c ∈ r.columns → d ∈ r.columns →
    (r.set c v).set d w = (r.set d w).set c v
  /-- The columns with their values make the same row. -/
  ofPairs_zip : ofPairs (r.columns.zip r.values) = r
  /-- Where a column is looked up there is a value. -/
  get?_parts : ∀ c, r.parts.get? c = some (r.get? c)
  /-- Where a column is set there is a value. -/
  set?_parts : ∀ c v, r.parts.set? c v = some (r.set c v).parts

theorem lawful (r : Row) : r.Lawful where
  get?_set_self c v := by rw [get?_set, if_pos rfl]
  get?_set_of_ne c d v hne := by rw [get?_set, if_neg hne]
  set_set c v w := eq_of_entries (assign_assign c v w r.entries)
  columns_of_mem _ v hc := columns_set_of_mem hc v
  columns_of_not_mem _ v hc := columns_set_of_not_mem hc v
  set_comm _ _ _ _ hne hc hd := eq_of_entries (assign_comm hne hc hd)
  ofPairs_zip := by rw [zip_columns_values, ofPairs_entries]
  get?_parts := r.get?_parts
  set?_parts := r.set?_parts

/-! ## What is set one after the other -/

/-- The row comes from setting columns one after the other, beginning without any. -/
inductive Made : List (String × Value) → Row → Prop
  | empty : Made [] .empty
  | set {pairs : List (String × Value)} {r : Row} (c : String) (v : Value) :
      Made pairs r → Made (pairs ++ [(c, v)]) (r.set c v)

/-- The row is the map of the pairs in which the last one of a column counts. -/
structure Holds (r : Row) (pairs : List (String × Value)) : Prop where
  /-- Set side by side, the pairs give the columns and the values of the row, and there always is a
  value where one is looked for. -/
  parts_eq : Parts.setAll? ⟨[], []⟩ pairs = some r.parts
  /-- There are as many columns as values. -/
  length_eq : r.columns.length = r.values.length
  /-- No column is there twice. -/
  nodup : r.columns.Nodup
  /-- The columns stand in the order in which they were first set. -/
  columns_eq : r.columns = (pairs.map Prod.fst).eraseDups
  /-- A column has the value that was set last. -/
  get?_eq : ∀ c, r.get? c = pairs.reverse.lookup c

section

variable {r : Row} {pairs : List (String × Value)}

theorem length_columns (r : Row) : r.columns.length = r.values.length := by
  rw [columns, values, List.length_map, List.length_map]

theorem holds_empty : empty.Holds [] := ⟨rfl, rfl, List.nodup_nil, rfl, fun _ => rfl⟩

/-- Setting a column is one more pair. -/
theorem Holds.set (h : r.Holds pairs) (c : String) (v : Value) :
    (r.set c v).Holds (pairs ++ [(c, v)]) where
  parts_eq := by
    rw [Parts.setAll?, List.foldlM_append, ← Parts.setAll?, h.parts_eq]
    show r.parts.set? c v >>= some = _
    rw [set?_parts]
    rfl
  length_eq := length_columns _
  nodup := (r.set c v).nodup
  columns_eq := by
    rw [columns_set, List.map_append, List.map_singleton, eraseDups_append_singleton, h.columns_eq]
    simp only [List.mem_eraseDups]
  get?_eq c' := by
    rw [get?_set, List.reverse_append, List.reverse_singleton, List.singleton_append,
      lookup_cons_eq, h.get?_eq]

/-- However many columns are set. -/
theorem Made.holds (h : Made pairs r) : r.Holds pairs := by
  induction h with
  | empty => exact holds_empty
  | set c v _ ih => exact ih.set c v

theorem made_ofPairs (pairs : List (String × Value)) : Made pairs (ofPairs pairs) := by
  induction pairs using List.reverseRecOn with
  | nil => exact .empty
  | append_singleton pairs e ih =>
    rw [ofPairs, setAll, List.foldl_append]
    exact .set e.1 e.2 ih

end

end Row

end BoundSql
