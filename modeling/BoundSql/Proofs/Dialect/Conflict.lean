import BoundSql.Dialect
import Mathlib.Data.List.TakeWhile

/-!
# The conflict target and the indexes it is taken from

The columns on which rows collide are taken from a list of the unique indexes, which has a
row for every column of every index.  An expression in an index has a row as well, but no
name.  Rows without a name are passed over, wherever they stand.

So the conflict target is what is named of the first index that is not the primary key and
has a name at all (`UniqueIndex.find_usable`).  If all of that index is named then the target
is a whole index, the first one that could be a target.  Otherwise the target is only a part
of an index, on which the rows of the table need not be unique
(`UniqueIndex.conflictColumns_listed`).
-/

namespace BoundSql

/-- A unique index of a table. -/
structure UniqueIndex where
  name : String
  /-- What made the index, `pk` for the primary key. -/
  origin : String
  /-- The names of the columns in order.  An expression has none. -/
  columns : List (Option String)
  nonempty : columns ≠ []

namespace UniqueIndex

/-- The columns that have names. -/
def named (i : UniqueIndex) : List String := i.columns.filterMap id

/-- Every column has a name. -/
def complete (i : UniqueIndex) : Bool := i.columns.all Option.isSome

/-- The index was not made for the primary key. -/
def added (i : UniqueIndex) : Bool := i.origin != "pk"

/-- What a row of the list says: the index, its origin and the column. -/
def cells (r : Row) : Option String × Option String × Option String :=
  (Dialect.textOf? r "index_name", Dialect.textOf? r "origin", Dialect.textOf? r "column_name")

/-- The rows list the indexes, each with its columns in order. -/
def Listed (indexes : List UniqueIndex) (rows : List Row) : Prop :=
  rows.map cells = indexes.flatMap fun i => i.columns.map fun c => (some i.name, some i.origin, c)

/-- The columns of the first whole index that is not the primary key, or else the primary
key. -/
def wholeTarget (indexes : List UniqueIndex) (primaryKey : String) : List String :=
  ((indexes.find? fun i => i.added && i.complete).map named).getD [primaryKey]

/-- The rows of an index, as the database gives them. -/
def listing (i : UniqueIndex) : List Row :=
  i.columns.map fun c => Row.empty.setAll
    [("index_name", .text i.name), ("origin", .text i.origin), ("column_name", c.elim .null .text)]

theorem listed_listing (indexes : List UniqueIndex) : Listed indexes (indexes.flatMap listing) := by
  have hcells : ∀ i : UniqueIndex,
      i.listing.map cells = i.columns.map fun c => (some i.name, some i.origin, c) := by
    intro i
    rw [listing, List.map_map]
    refine List.map_congr_left fun c _ => ?_
    cases c <;> rfl
  rw [Listed, List.map_flatMap]
  exact congrArg (List.flatMap · indexes) (funext hcells)

/-! ## Columns of an index -/

theorem map_some_named (i : UniqueIndex) : i.named.map some = i.columns.filter Option.isSome := by
  rw [named]
  induction i.columns with
  | nil => rfl
  | cons c cs ih =>
    cases c with
    | none => exact ih
    | some c => exact congrArg (some c :: ·) ih

theorem complete_iff (i : UniqueIndex) : i.complete ↔ i.named.map some = i.columns := by
  rw [map_some_named, List.filter_eq_self, complete, List.all_eq_true]

theorem named_ne_nil {i : UniqueIndex} (h : i.complete) : i.named ≠ [] := by
  intro hnil
  have hcolumns := i.complete_iff.mp h
  rw [hnil] at hcolumns
  exact i.nonempty hcolumns.symm

/-- What is named of an index is a proper part if not everything is. -/
theorem length_named_lt {i : UniqueIndex} (h : ¬ i.complete) :
    i.named.length < i.columns.length := by
  rw [← List.length_map some, map_some_named]
  refine List.length_filter_lt_length_iff_exists.mpr ?_
  simpa [complete] using h

/-! ## The scan -/

/-- The index can be the target: something of it is named. -/
def usable (i : UniqueIndex) : Bool := i.added && !i.named.isEmpty

/-- What is kept of the rows of an index. -/
def entries (i : UniqueIndex) : List Dialect.IndexColumn :=
  i.named.map fun c => ⟨i.name, some i.origin, c⟩

/-- What is kept of a row. -/
def kept : Option String × Option String × Option String → Option Dialect.IndexColumn
  | (some index, origin, some column) => some ⟨index, origin, column⟩
  | _ => none

theorem ofRow?_eq (r : Row) : Dialect.IndexColumn.ofRow? r = kept (cells r) := by
  rw [Dialect.IndexColumn.ofRow?, cells]
  cases Dialect.textOf? r "index_name" <;> cases Dialect.textOf? r "column_name" <;> rfl

theorem filterMap_kept (i : UniqueIndex) :
    (i.columns.map fun c => (some i.name, some i.origin, c)).filterMap kept = i.entries := by
  rw [entries, named]
  induction i.columns with
  | nil => rfl
  | cons c cs ih =>
    cases c with
    | none => exact ih
    | some c => exact congrArg (_ :: ·) ih

variable {indexes : List UniqueIndex} {rows : List Row}

theorem filterMap_ofRow? (h : Listed indexes rows) :
    rows.filterMap Dialect.IndexColumn.ofRow? = indexes.flatMap entries := by
  have hkept : Dialect.IndexColumn.ofRow? = kept ∘ cells := funext ofRow?_eq
  rw [hkept, ← List.filterMap_map, h, List.filterMap_flatMap]
  exact congrArg (List.flatMap · indexes) (funext filterMap_kept)

/-- The entries of an index are skipped if it is that of the primary key. -/
theorem dropWhile_entries (i : UniqueIndex) (es : List Dialect.IndexColumn) :
    (i.entries ++ es).dropWhile (·.origin == some "pk")
      = if i.usable then i.entries ++ es else es.dropWhile (·.origin == some "pk") := by
  rw [entries, usable, added]
  cases hnamed : i.named with
  | nil => simp
  | cons c cs =>
    by_cases horigin : i.origin = "pk"
    · rw [List.dropWhile_append_of_pos (by simp [horigin])]
      simp [horigin]
    · simp [horigin]

/-- Up to the first usable index everything is skipped. -/
theorem dropWhile_flatMap : ∀ indexes : List UniqueIndex,
    (indexes.flatMap entries).dropWhile (·.origin == some "pk")
      = (indexes.dropWhile (!·.usable)).flatMap entries
  | [] => rfl
  | i :: indexes => by
    rw [List.flatMap_cons, dropWhile_entries, List.dropWhile_cons, dropWhile_flatMap indexes]
    cases hi : i.usable <;> simp

/-- Entries of other indexes do not go on with an index. -/
theorem takeWhile_others {name : String} (h : ∀ i ∈ indexes, i.name ≠ name) :
    (indexes.flatMap entries).takeWhile (·.index == name) = [] := by
  cases hentries : indexes.flatMap entries with
  | nil => rfl
  | cons e es =>
    obtain ⟨i, hi, he⟩ := List.mem_flatMap.mp (hentries ▸ List.mem_cons_self : e ∈ _)
    obtain ⟨c, _, rfl⟩ := List.mem_map.mp he
    simp [h i hi]

/-- What is named of the first usable index is the target. -/
theorem find_usable (h : Listed indexes rows) (hnames : (indexes.map name).Nodup)
    (primaryKey : String) :
    Dialect.sqlite.conflictColumns rows primaryKey
      = ((indexes.find? usable).map named).getD [primaryKey] := by
  rw [Dialect.conflictColumns, filterMap_ofRow? h, dropWhile_flatMap,
    List.find?_eq_head?_dropWhile_not]
  cases hdrop : indexes.dropWhile (!·.usable) with
  | nil => rfl
  | cons i others =>
    have husable : i.usable := by
      have hfirst := List.head?_dropWhile_not (!UniqueIndex.usable ·) indexes
      simpa [hdrop] using hfirst
    have hothers : ∀ j ∈ others, j.name ≠ i.name := by
      have hsuffix : (i :: others).Sublist indexes := hdrop ▸ List.dropWhile_sublist _
      have hnodup := hnames.sublist (hsuffix.map name)
      rw [List.map_cons, List.nodup_cons] at hnodup
      exact fun j hj hname => hnodup.1 (hname ▸ List.mem_map_of_mem hj)
    cases hnamed : i.named with
    | nil => simp [usable, hnamed] at husable
    | cons c cs =>
      rw [List.flatMap_cons, entries, hnamed, List.map_cons]
      -- the scan goes on to the end of the index, and no further
      show c :: List.map _ (List.takeWhile _ (_ ++ _)) = i.named
      rw [List.takeWhile_append_of_pos (by simp), takeWhile_others hothers, hnamed,
        List.append_nil, List.map_map]
      simp [Function.comp_def]

theorem usable_of_whole {i : UniqueIndex} (h : i.added && i.complete) : i.usable := by
  rw [Bool.and_eq_true] at h
  simp [usable, h.1, named_ne_nil h.2]

theorem find?_whole_eq_none (h : indexes.find? usable = none) :
    (indexes.find? fun i => i.added && i.complete) = none :=
  List.find?_eq_none.mpr fun i hi hwhole => List.find?_eq_none.mp h i hi (usable_of_whole hwhole)

theorem find?_whole_eq_some {i : UniqueIndex} (h : indexes.find? usable = some i)
    (hi : i.complete) : (indexes.find? fun i => i.added && i.complete) = some i := by
  obtain ⟨husable, before, behind, rfl, hbefore⟩ := List.find?_eq_some_iff_append.mp h
  refine List.find?_eq_some_iff_append.mpr ⟨?_, before, behind, rfl, fun j hj => ?_⟩
  · rw [usable, Bool.and_eq_true] at husable
    rw [husable.1, hi]
    rfl
  -- an index without a name in front is not whole either
  · have hj : ¬ j.usable := by simpa using hbefore j hj
    exact Bool.not_eq_true' _ ▸ Bool.eq_false_iff.mpr fun hwhole => hj (usable_of_whole hwhole)

/-- The conflict target is what is named of the first index that is not the primary key and
has a name at all.  It is a whole index, and the first one that there is, if all of that index
is named.  Otherwise it is a proper part of that index. -/
theorem conflictColumns_listed (h : Listed indexes rows) (hnames : (indexes.map name).Nodup)
    (primaryKey : String) :
    (indexes.find? usable = none →
      Dialect.sqlite.conflictColumns rows primaryKey = [primaryKey]
        ∧ wholeTarget indexes primaryKey = [primaryKey])
      ∧ ∀ i, indexes.find? usable = some i →
          Dialect.sqlite.conflictColumns rows primaryKey = i.named
            ∧ (i.complete → i.named.map some = i.columns ∧ wholeTarget indexes primaryKey = i.named)
            ∧ (¬ i.complete →
                (i.named.map some).Sublist i.columns ∧ i.named.length < i.columns.length) := by
  rw [find_usable h hnames]
  constructor
  · intro hnone
    rw [wholeTarget, find?_whole_eq_none hnone, hnone]
    exact ⟨rfl, rfl⟩
  · intro i hi
    refine ⟨by rw [hi]; rfl, fun hcomplete => ⟨i.complete_iff.mp hcomplete, ?_⟩, fun hpart => ?_⟩
    · rw [wholeTarget, find?_whole_eq_some hi hcomplete]
      rfl
    · exact ⟨i.map_some_named ▸ List.filter_sublist, length_named_lt hpart⟩

/-- The index of the primary key, one with an expression, and one that is whole. -/
def threeIndexes : List UniqueIndex :=
  [⟨"t_id", "pk", [some "id"], List.cons_ne_nil _ _⟩,
    ⟨"t_name_lower", "c", [some "name", none], List.cons_ne_nil _ _⟩,
    ⟨"t_name_day", "u", [some "name", some "day"], List.cons_ne_nil _ _⟩]

theorem conflictColumns_listed_threeIndexes :
    Dialect.sqlite.conflictColumns (threeIndexes.flatMap listing) "id" = ["name"]
      ∧ wholeTarget threeIndexes "id" = ["name", "day"]
      ∧ ∃ i ∈ threeIndexes, i.named = ["name"] ∧ i.named.length < i.columns.length := by
  obtain ⟨_, hsome⟩ :=
    conflictColumns_listed (listed_listing threeIndexes) (by decide +kernel) "id"
  obtain ⟨htarget, _, hpart⟩ := hsome _ rfl
  exact ⟨htarget, by decide +kernel, _, by simp [threeIndexes], rfl, (hpart (by decide +kernel)).2⟩

end UniqueIndex

end BoundSql
