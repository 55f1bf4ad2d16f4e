import BoundSql.Driver.Mysql
import BoundSql.Driver.Sqlite
import BoundSql.Proofs.Row
import BoundSql.ResultSet
import Mathlib.Data.List.Perm.Subperm

/-!
# The columns of a query in its rows

A database answers a query with rows of columns by position, of which several may have one name.  A
row of the result has one column for each name.  It stands where the name is first and has the value
that is last (`Row.Decodes`).

So the columns keep their positions if and only if their names are distinct.  The first column has
the value of the first column of the query if and only if no other value follows under its name
(`FirstKept`).  The main theorem says this of whatever the two databases answer
(`ResultSet.columns_kept_iff`).
-/

namespace BoundSql

/-! ## Rows -/

/-- The value of the last column with a name. -/
def lastValue? (columns : RawRow) (name : String) : Option Value := columns.reverse.lookup name

/-- The last column with the name of the first one has the value of the first one. -/
def FirstKept (columns : RawRow) : Prop := ∀ e ∈ columns.head?, lastValue? columns e.1 = some e.2

/-- What becomes of the columns of a row. -/
structure Row.Decodes (columns : RawRow) (r : Row) : Prop where
  /-- Each name is there once, in the order in which they are first met. -/
  columns_eq : r.columns = (columns.map Prod.fst).eraseDups
  /-- At the position of a name stands the value of the last column of that name. -/
  at?_eq : ∀ i, r.at? i = r.columns[i]?.bind (lastValue? columns)
  /-- Every column is where it was if and only if the names are distinct. -/
  positions_iff : (∀ i, r.at? i = columns[i]?.map Prod.snd) ↔ (columns.map Prod.fst).Nodup
  /-- The first value is that of the first column if and only if no other one follows under its
  name. -/
  first?_iff : r.first? = columns.head?.map Prod.snd ↔ FirstKept columns

theorem lookup_of_getElem? {α : Type} {es : List (String × α)} (h : (es.map Prod.fst).Nodup)
    {i : Nat} {e : String × α} (he : es[i]? = some e) : es.lookup e.1 = some e.2 := by
  induction es generalizing i with
  | nil => cases he
  | cons e' es ih =>
    obtain ⟨hnew, hes⟩ := List.nodup_cons.mp h
    rw [lookup_cons_eq]
    cases i with
    | zero =>
      cases he
      exact if_pos rfl
    | succ i =>
      have hne : e.1 ≠ e'.1 := by
        intro heq
        exact hnew (heq ▸ List.mem_map_of_mem (List.mem_of_getElem? he))
      rw [if_neg hne, ih hes he]

/-- The value at a position is the value of the column that stands there. -/
theorem Row.at?_eq_bind (r : Row) (i : Nat) : r.at? i = r.columns[i]?.bind r.get? := by
  rw [at?, getElem?_values, columns, List.getElem?_map]
  cases he : r.entries[i]? with
  | none => rfl
  | some e => exact (lookup_of_getElem? r.nodup he).symm

theorem Row.first?_eq_at? (r : Row) : r.first? = r.at? 0 := List.head?_eq_getElem?

/-- Names of which none is lost are distinct. -/
theorem nodup_of_length_eraseDups {names names' : List String} (h : names' = names.eraseDups)
    (hnodup : names'.Nodup) (hlength : names.length ≤ names'.length) : names.Nodup := by
  have hsub : names' ⊆ names := fun c hc => List.mem_eraseDups.mp (h ▸ hc)
  exact ((hnodup.subperm hsub).perm_of_length_le hlength).nodup_iff.mp hnodup

theorem Row.head?_columns {columns : RawRow} {r : Row}
    (h : r.columns = (columns.map Prod.fst).eraseDups) :
    r.columns[0]? = columns.head?.map Prod.fst := by
  rw [h]
  cases columns with
  | nil => rfl
  | cons e columns => rw [List.map_cons, List.eraseDups_cons]; rfl

/-- Decoding sets the columns one after the other. -/
theorem Row.decodes_ofPairs (columns : RawRow) : Row.Decodes columns (.ofPairs columns) := by
  have hholds := (made_ofPairs columns).holds
  have hat : ∀ i, (ofPairs columns).at? i
      = (ofPairs columns).columns[i]?.bind (lastValue? columns) := by
    intro i
    rw [at?_eq_bind, funext hholds.get?_eq]
    rfl
  refine ⟨hholds.columns_eq, hat, ⟨fun h => ?_, fun h i => ?_⟩, ?_⟩
  · have hvalues : (ofPairs columns).values = columns.map Prod.snd :=
      List.ext_getElem? fun i => (h i).trans List.getElem?_map.symm
    refine nodup_of_length_eraseDups hholds.columns_eq hholds.nodup (Nat.le_of_eq ?_)
    rw [hholds.length_eq, hvalues, List.length_map, List.length_map]
  · have hentries : (ofPairs columns).entries = columns := entries_setAll (r := empty) h
    rw [at?, getElem?_values, hentries]
  · rw [first?_eq_at?, hat, head?_columns hholds.columns_eq, FirstKept]
    cases columns with
    | nil => exact iff_of_true rfl nofun
    | cons e columns => simp

/-! ## Result sets -/

/-- What becomes of the columns of the rows of a query. -/
structure ResultSet.Decodes (raws : List RawRow) (s : ResultSet) : Prop where
  /-- There is a row for each one. -/
  rows : List.Forall₂ Row.Decodes raws s.rows
  /-- The rows keep the columns where they were if and only if their names are distinct. -/
  positions_iff :
    List.Forall₂ (fun columns r => ∀ i, r.at? i = columns[i]?.map Prod.snd) raws s.rows
      ↔ ∀ columns ∈ raws, (columns.map Prod.fst).Nodup
  /-- When the first value is that of the first column of the first row. -/
  value?_iff : s.value? = (raws.head?.bind List.head?).map Prod.snd
    ↔ ∀ columns ∈ raws.head?, FirstKept columns
  /-- When the first values are those of the first columns of the rows. -/
  columnValues_iff : s.columnValues = raws.filterMap (fun columns => columns.head?.map Prod.snd)
    ↔ ∀ columns ∈ raws, FirstKept columns

theorem Row.isSome_first?_ofPairs (columns : RawRow) :
    (ofPairs columns).first?.isSome = (columns.head?.map Prod.snd).isSome := by
  have hdecodes := decodes_ofPairs columns
  rw [first?_eq_at?, hdecodes.at?_eq, head?_columns hdecodes.columns_eq]
  cases columns with
  | nil => rfl
  | cons e columns =>
    rw [List.head?_cons, Option.map_some, Option.map_some, Option.bind_some, Option.isSome_some,
      lastValue?, List.lookup_isSome_iff]
    exact ⟨e, List.mem_reverse.mpr List.mem_cons_self, beq_self_eq_true _⟩

/-- Two functions that are defined on the same elements map a list to the same one if they agree on
it. -/
theorem filterMap_eq_filterMap_iff {α β : Type} {f g : α → Option β}
    (h : ∀ a, (f a).isSome = (g a).isSome) (as : List α) :
    as.filterMap f = as.filterMap g ↔ ∀ a ∈ as, f a = g a := by
  induction as with
  | nil => exact iff_of_true rfl nofun
  | cons a as ih =>
    have ha := h a
    rw [List.forall_mem_cons, ← ih]
    cases hf : f a with
    | none =>
      cases hg : g a with
      | none => simp [hf, hg]
      | some c => simp [hf, hg] at ha
    | some b =>
      cases hg : g a with
      | none => simp [hf, hg] at ha
      | some c => simp [hf, hg]

theorem ResultSet.decodes_map (raws : List RawRow) :
    ResultSet.Decodes raws ⟨raws.map Row.ofPairs⟩ where
  rows := List.forall₂_map_right_iff.mpr
    (List.forall₂_same.mpr fun columns _ => Row.decodes_ofPairs columns)
  positions_iff := by
    rw [List.forall₂_map_right_iff, List.forall₂_same]
    exact forall₂_congr fun columns _ => (Row.decodes_ofPairs columns).positions_iff
  value?_iff := by
    cases raws with
    | nil => exact iff_of_true rfl nofun
    | cons columns raws =>
      simp only [List.head?_cons, Option.mem_some_iff, forall_eq', Option.bind_some]
      exact (Row.decodes_ofPairs columns).first?_iff
  columnValues_iff := by
    rw [columnValues, List.filterMap_map]
    refine (filterMap_eq_filterMap_iff Row.isSome_first?_ofPairs raws).trans ?_
    exact forall₂_congr fun columns _ => (Row.decodes_ofPairs columns).first?_iff

/-! ## Answers -/

theorem Connection.fetchAll_eq_ok {σ : Type} {b : Backend σ} {statement : Statement}
    {c : Connection σ} {scalars : List Scalar} {raws : List RawRow} {db : σ}
    (hscalars : bindAll statement.params = .ok scalars)
    (hraws : b.fetchAll statement.sql scalars c.database = (.ok raws, db)) :
    b.driver.fetchAll statement c = (.ok (raws.map Row.ofPairs), { c with database := db }) := by
  show fetchAll b statement c = _
  simp only [fetchAll, hscalars, hraws]

/-- Whatever rows of columns a MySQL server or an SQLite database answers with, there is a result
set.  Its rows keep the columns where they were if and only if no two columns of a row have one
name.  Otherwise columns are lost: a name stands where it is first, with the value that is last.
The first column of the first row, and that of every row, has the value of the first column of the
query if and only if the last column with its name has this value, too. -/
theorem ResultSet.columns_kept_iff {σ : Type} (statement : Statement) (c : Connection σ)
    (scalars : List Scalar) (hscalars : Connection.bindAll statement.params = .ok scalars) :
    (∀ (server : Mysql.Server σ) (answer : List (List (String × Mysql.Cell))) (db : σ),
        server.fetchAll statement.sql scalars c.database = (.ok answer, db) →
        ∃ rows, (Mysql.backend server).driver.fetchAll statement c
            = (.ok rows, { c with database := db })
          ∧ Decodes (answer.map fun cells => cells.map fun e => (e.1, e.2.value)) ⟨rows⟩)
      ∧ ∀ (engine : Sqlite.Engine σ) (answer : List Embedded.NamedRow) (db : σ),
        engine.fetchAll statement.sql scalars c.database = (.ok answer, db) →
        ∃ rows, engine.backend.driver.fetchAll statement c
            = (.ok rows, { c with database := db })
          ∧ Decodes (answer.map fun cells => cells.map fun e => (e.1, e.2.toValue)) ⟨rows⟩ := by
  refine ⟨fun server answer db h => ?_, fun engine answer db h => ?_⟩
  · refine ⟨_, Connection.fetchAll_eq_ok hscalars ?_, decodes_map _⟩
    simp only [Mysql.backend, h]
    rfl
  · refine ⟨_, Connection.fetchAll_eq_ok hscalars ?_, decodes_map _⟩
    simp only [Sqlite.Engine.backend, h]
    rfl

/-- A server that answers every query with two columns of one name. -/
def joiningServer : Mysql.Server Unit where
  execute _ _ s := (.ok ⟨0, 0⟩, s)
  fetchAll _ _ s :=
    (.ok [[("id", ⟨.signed, some (1 : Int64)⟩), ("id", ⟨.signed, some (2 : Int64)⟩)]], s)

/-- Of two columns of one name the row has one, and the first value is not that of the first one. -/
theorem ResultSet.columns_kept_iff_joined :
    ∃ r, (Mysql.backend joiningServer).driver.fetchAll (.plain "SELECT a.id, b.id FROM a, b")
          { database := () } = (.ok [r], { database := () })
      ∧ r.columns = ["id"]
      ∧ r.at? 0 = some (.int 2)
      ∧ r.at? 1 = none
      ∧ (⟨[r]⟩ : ResultSet).value? ≠ some (.int 1) := by
  obtain ⟨hserver, -⟩ := columns_kept_iff (.plain "SELECT a.id, b.id FROM a, b")
    { database := () } [] rfl
  obtain ⟨rows, hfetch, hdecodes⟩ := hserver joiningServer _ _ rfl
  obtain ⟨r, rows, hrow, hrows, rfl⟩ := List.forall₂_cons_left_iff.mp hdecodes.rows
  cases hrows
  have hcolumns : r.columns = ["id"] := hrow.columns_eq.trans (by decide)
  refine ⟨r, hfetch, hcolumns, ?_, ?_, ?_⟩
  · rw [hrow.at?_eq, hcolumns]
    rfl
  · rw [hrow.at?_eq, hcolumns]
    rfl
  · intro hvalue
    exact nomatch hdecodes.value?_iff.mp hvalue _ rfl _ rfl

end BoundSql
