import BoundSql.Proofs.Json.Value
import BoundSql.Proofs.Row

/-!
# Rows and their documents

A text is read as a row if it is an object whose members are values.  The members are set one
after the other, the last of a column decides, and the first one decides where the column stands
(`Row.columns_of_members`, `Row.get?_of_members`).

The main theorem is `Row.json_faithful`.  Values, rows and lists of rows that are written are read
back in normal form, and whatever is read as a row is the row of the members that the text spells.
-/

namespace BoundSql

/-- What is done to the values of a list is done to the value that is looked up. -/
theorem lookup_map_snd {α β : Type} (f : α → β) (c : String) (es : List (String × α)) :
    (es.map fun e => (e.1, f e.2)).lookup c = (es.lookup c).map f := by
  induction es with
  | nil => rfl
  | cons e es ih =>
    rw [List.map_cons, lookup_cons_eq, lookup_cons_eq, ih]
    by_cases h : c = e.1
    · rw [if_pos h, if_pos h, Option.map_some]
    · rw [if_neg h, if_neg h]

namespace Row

/-- The row with its values in normal form. -/
def normal (r : Row) : Row :=
  ⟨r.entries.map fun e => (e.1, e.2.normal), by rw [List.map_map]; exact r.nodup⟩

/-! ## The row of some members -/

/-- Sets the column of a member to its value, if it has one. -/
def put? (r : Row) (m : String × Json) : Option Row := m.2.toValue?.map (r.set m.1)

section

variable {ms : List (String × Json)} {m : String × Json} {r : Row}

/-- What is set by some members and one more. -/
theorem foldlM_put?_append (h : (ms ++ [m]).foldlM put? empty = some r) :
    ∃ r' v, ms.foldlM put? empty = some r' ∧ m.2.toValue? = some v ∧ r = r'.set m.1 v := by
  rw [List.foldlM_append] at h
  obtain ⟨r', hr', h⟩ := Option.bind_eq_some_iff.mp h
  rw [List.foldlM_cons] at h
  obtain ⟨r'', hput, h⟩ := Option.bind_eq_some_iff.mp h
  obtain ⟨v, hv, rfl⟩ := Option.map_eq_some_iff.mp hput
  cases h
  exact ⟨r', v, hr', hv, rfl⟩

/-- The members have the values of the pairs, one by one. -/
def Valued (ms : List (String × Json)) (pairs : List (String × Value)) : Prop :=
  ms.map (fun m => (m.1, m.2.toValue?)) = pairs.map fun e => (e.1, some e.2)

/-- The members are set one after the other. -/
theorem made_of_members (h : ms.foldlM put? empty = some r) :
    ∃ pairs, Valued ms pairs ∧ Made pairs r := by
  induction ms using List.reverseRecOn generalizing r with
  | nil =>
    cases h
    exact ⟨[], rfl, .empty⟩
  | append_singleton ms m ih =>
    obtain ⟨r', v, hr', hv, rfl⟩ := foldlM_put?_append h
    obtain ⟨pairs, hpairs, hmade⟩ := ih hr'
    refine ⟨pairs ++ [(m.1, v)], ?_, .set m.1 v hmade⟩
    rw [Valued, List.map_append, List.map_append, hpairs, List.map_singleton, hv]
    rfl

theorem Valued.names_eq {pairs : List (String × Value)} (h : Valued ms pairs) :
    ms.map Prod.fst = pairs.map Prod.fst := by
  have hnames := congrArg (List.map Prod.fst) h
  rwa [List.map_map, List.map_map] at hnames

theorem Valued.lookup_eq {pairs : List (String × Value)} (h : Valued ms pairs) (c : String) :
    (ms.reverse.lookup c).bind Json.toValue? = pairs.reverse.lookup c := by
  have hlookup := congrArg (fun es => (List.reverse es).lookup c) h
  simp only [← List.map_reverse] at hlookup
  rw [lookup_map_snd, lookup_map_snd some] at hlookup
  cases hm : ms.reverse.lookup c with
  | none =>
    rw [hm] at hlookup
    exact (Option.map_eq_none_iff.mp hlookup.symm).symm
  | some j =>
    rw [hm] at hlookup
    obtain ⟨v, hv, hvalue⟩ := Option.map_eq_some_iff.mp hlookup.symm
    rw [hv]
    exact hvalue.symm

/-- A column stands where its first member stands. -/
theorem columns_of_members (h : ms.foldlM put? empty = some r) :
    r.columns = (ms.map Prod.fst).eraseDups := by
  obtain ⟨pairs, hpairs, hmade⟩ := made_of_members h
  rw [hmade.holds.columns_eq, hpairs.names_eq]

/-- The last member of a column gives its value. -/
theorem get?_of_members (h : ms.foldlM put? empty = some r) (c : String) :
    r.get? c = (ms.reverse.lookup c).bind Json.toValue? := by
  obtain ⟨pairs, hpairs, hmade⟩ := made_of_members h
  rw [hmade.holds.get?_eq, hpairs.lookup_eq]

theorem blobFree_of_members (h : ms.foldlM put? empty = some r) : ∀ v ∈ r.values, v.BlobFree := by
  induction ms using List.reverseRecOn generalizing r with
  | nil =>
    cases h
    exact nofun
  | append_singleton ms m ih =>
    obtain ⟨r', v, hr', hv, rfl⟩ := foldlM_put?_append h
    intro u hu
    obtain ⟨e, he, rfl⟩ := List.mem_map.mp hu
    rcases mem_assign he with rfl | he
    · exact Json.blobFree_of_toValue? hv
    · exact ih hr' _ (List.mem_map_of_mem he)

end

/-- The members of some pairs that are written set the columns to the values in normal form. -/
theorem foldlM_put?_map (r : Row) (es : List (String × Value)) :
    (es.map fun e => (e.1, e.2.toJson)).foldlM put? r
      = some (r.setAll (es.map fun e => (e.1, e.2.normal))) := by
  induction es generalizing r with
  | nil => rfl
  | cons e es ih =>
    rw [List.map_cons, List.foldlM_cons, put?, Json.toValue?_toJson]
    exact ih _

/-- The members of a row that is written give the row in normal form. -/
theorem foldlM_put?_toJson (r : Row) :
    (r.entries.map fun e => (e.1, e.2.toJson)).foldlM put? empty = some r.normal :=
  (foldlM_put?_map empty r.entries).trans (congrArg some (ofPairs_entries r.normal))

end Row

/-! ## Reading a row -/

namespace Json

variable {budget outer : Nat}

theorem takes_put? {m : String × Json} (h : m.2.depth + (outer + 1) ≤ maxDepth) :
    Takes budget
      (fun row column => do colon; pure (row.set column (← valueAt (outer + 1) budget)))
      id Row.put? m := by
  intro r r' cs cs' rest hput hbudget hcolon hj
  obtain ⟨v, hv, rfl⟩ := Option.map_eq_some_iff.mp hput
  have hlength := hcolon.length_lt
  refine (bind_colon hcolon).trans ?_
  exact bind_of_ok (reads_valueAt hv h cs' rest (by omega) hj)

theorem takesOnly_put? :
    TakesOnly (fun row column => do colon; pure (row.set column (← valueAt outer budget)))
      Row.put? := by
  intro r r' name cs rest h
  obtain ⟨_, cs', hcolon, h⟩ := bind_eq_ok.mp h
  obtain ⟨v, cs'', hv, h⟩ := bind_eq_ok.mp h
  cases h
  obtain ⟨j, hj, -, hvalue⟩ := readsOnly_valueAt _ _ _ hv
  exact ⟨j, cs', colon_eq_ok.mp hcolon, hj, by rw [Row.put?, hvalue]; rfl⟩

theorem reads_rowAt {ms : List (String × Json)} {r : Row} (h : ms.foldlM Row.put? .empty = some r)
    (hdepth : (Json.object ms).depth + outer ≤ maxDepth) :
    Reads budget (rowAt outer budget) (.object ms) r := by
  refine reads_readObject _ (fun m hm => takes_put? ?_) h
  have hm := depth_members_le.mp (Nat.le_refl _) m hm
  rw [depth] at hdepth
  omega

theorem readsOnly_rowAt :
    ReadsOnly (rowAt outer budget) fun j r =>
      ∃ ms, j = .object ms ∧ ms.foldlM Row.put? .empty = some r :=
  readsOnly_readObject takesOnly_put?

/-- A row that is written is read back in normal form. -/
theorem reads_row_toJson {r : Row} (h : r.toJson.depth + outer ≤ maxDepth) :
    Reads budget (rowAt outer budget) r.toJson r.normal :=
  reads_rowAt r.foldlM_put?_toJson h

theorem integral_row_toJson {r : Row} (h : ∀ v ∈ r.values, v.FloatFree) : r.toJson.Integral := by
  refine .object fun m hm => ?_
  obtain ⟨e, he, rfl⟩ := List.mem_map.mp hm
  exact integral_toJson (h e.2 (List.mem_map_of_mem he))

end Json

/-! ## There and back -/

/-- Without doubles, and within 127 nested arrays and objects, what is written is read back in
normal form: values, rows and lists of rows.  A text that is read as a row is an object.  The row
has its columns in the order in which they are first met there, each with the value that is last
met, and it holds no blob. -/
theorem Row.json_faithful :
    (∀ v : Value, v.FloatFree → v.toJson.depth ≤ 127 →
        Value.ofJson v.toJson.compact = .ok v.normal)
      ∧ (∀ r : Row, (∀ v ∈ r.values, v.FloatFree) → r.toJson.depth ≤ 127 →
          Row.ofJson r.toJson.compact = .ok r.normal)
      ∧ (∀ rs : List Row, (∀ r ∈ rs, ∀ v ∈ r.values, v.FloatFree) →
          (Json.array (rs.map Row.toJson)).depth ≤ 127 →
          Row.listOfJson (Json.array (rs.map Row.toJson)).compact = .ok (rs.map Row.normal))
      ∧ ∀ (s : String) (r : Row), Row.ofJson s = .ok r →
          ∃ members, (Json.object members).SpelledBy s
            ∧ r.columns.Nodup
            ∧ r.columns = (members.map Prod.fst).eraseDups
            ∧ (∀ c, r.get? c = (members.reverse.lookup c).bind Json.toValue?)
            ∧ ∀ v ∈ r.values, v.BlobFree := by
  refine ⟨fun v hv hdepth => ?_, fun r hr hdepth => ?_, fun rs hrs hdepth => ?_, fun s r h => ?_⟩
  · exact Json.readText_of_spelledBy (Json.reads_valueAt (Json.toValue?_toJson v) hdepth)
      (Json.spelledBy_compact (Json.integral_toJson hv))
  · exact Json.readText_of_spelledBy (Json.reads_row_toJson hdepth)
      (Json.spelledBy_compact (Json.integral_row_toJson hr))
  · have hdepth : ∀ r ∈ rs, r.toJson.depth + 1 ≤ Json.maxDepth := by
      intro r hr
      have hitem := Json.depth_items_le.mp (Nat.le_refl _) r.toJson (List.mem_map_of_mem hr)
      rw [Json.depth] at hdepth
      exact Nat.le_trans (Nat.succ_le_succ hitem) hdepth
    have hintegral : (Json.array (rs.map Row.toJson)).Integral := by
      refine .array fun j hj => ?_
      obtain ⟨r, hr, rfl⟩ := List.mem_map.mp hj
      exact Json.integral_row_toJson (hrs r hr)
    refine Json.readText_of_spelledBy (Json.reads_readArray ?_) (Json.spelledBy_compact hintegral)
    rw [List.forall₂_map_left_iff, List.forall₂_map_right_iff, List.forall₂_same]
    exact fun r hr => Json.reads_row_toJson (hdepth r hr)
  · obtain ⟨_, hs, ms, rfl, hms⟩ := Json.spelledBy_of_readText (fun _ => Json.readsOnly_rowAt) h
    exact ⟨ms, hs, r.nodup, columns_of_members hms, get?_of_members hms, blobFree_of_members hms⟩

/-- A list with a blob in it. -/
def nestedValue : Value :=
  .list [.null, .int Int64.minValue, .text "\"é\n", .list [.bool true, .blob [0, 255]]]

/-- A row with a blob in a list. -/
def nestedRow : Row := ⟨[("b", nestedValue), ("a", .text "")], by decide⟩

/-- The blob comes back as a list, and then it stays. -/
theorem Row.json_faithful_nestedRow :
    Value.ofJson nestedValue.toJson.compact = .ok nestedValue.normal
      ∧ nestedValue.normal = .list [.null, .int Int64.minValue, .text "\"é\n",
          .list [.bool true, .list [.int 0, .int 255]]]
      ∧ Row.ofJson nestedRow.toJson.compact = .ok nestedRow.normal
      ∧ Row.listOfJson (Json.array ([nestedRow, nestedRow].map Row.toJson)).compact
          = .ok [nestedRow.normal, nestedRow.normal]
      ∧ ∃ members, (Json.object members).SpelledBy nestedRow.toJson.compact
          ∧ ["b", "a"] = (members.map Prod.fst).eraseDups
          ∧ (members.reverse.lookup "a").bind Json.toValue? = some (.text "") := by
  obtain ⟨hvalue, hrow, hrows, hmembers⟩ := Row.json_faithful
  have hfree : nestedValue.FloatFree := by
    refine Value.floatFree_list ?_
    simp only [List.forall_mem_cons]
    refine ⟨Value.floatFree_of_isScalar rfl nofun, Value.floatFree_of_isScalar rfl nofun,
      Value.floatFree_of_isScalar rfl nofun, Value.floatFree_list ?_, List.forall_mem_nil _⟩
    simp only [List.forall_mem_cons]
    exact ⟨Value.floatFree_of_isScalar rfl nofun, Value.floatFree_of_isScalar rfl nofun,
      List.forall_mem_nil _⟩
  have hfree' : ∀ v ∈ nestedRow.values, v.FloatFree :=
    List.forall_mem_cons.mpr ⟨hfree, List.forall_mem_singleton.mpr
      (Value.floatFree_of_isScalar rfl nofun)⟩
  have hread := hrow nestedRow hfree' (by decide)
  obtain ⟨members, hspelled, -, hcolumns, hget, -⟩ := hmembers _ _ hread
  refine ⟨hvalue _ hfree (by decide), rfl, hread, hrows _ ?_ (by decide), members, hspelled,
    hcolumns, (hget "a").symm.trans rfl⟩
  simp only [List.forall_mem_cons]
  exact ⟨hfree', hfree', List.forall_mem_nil _⟩

end BoundSql
