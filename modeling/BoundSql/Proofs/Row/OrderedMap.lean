import BoundSql.Driver.Connection
import BoundSql.Proofs.Json.Row

/-!
# Where rows come from

Every row comes from setting columns one after the other: those of some pairs, the members of an
object, or the columns that a backend answers with.  The main theorem is `Row.ordered_map`.  Such
a row is the map of what was set, and the laws of setting and looking up hold for it.
-/

namespace BoundSql

namespace Row

/-- The row is made from the members of the document. -/
def FromJson (j : Json) (r : Row) : Prop :=
  ∃ members pairs, j = .object members ∧ Valued members pairs ∧ Made pairs r

theorem readsOnly_fromJson {outer budget : Nat} :
    Json.ReadsOnly (Json.rowAt outer budget) FromJson := by
  intro cs rest r h
  obtain ⟨j, hj, ms, rfl, hms⟩ := Json.readsOnly_rowAt cs rest r h
  obtain ⟨pairs, hpairs, hmade⟩ := made_of_members hms
  exact ⟨.object ms, hj, ms, pairs, rfl, hpairs, hmade⟩

theorem fromJson_of_ofJson {s : String} {r : Row} (h : ofJson s = .ok r) :
    ∃ j : Json, j.SpelledBy s ∧ FromJson j r :=
  Json.spelledBy_of_readText (fun _ => readsOnly_fromJson) h

theorem fromJson_of_listOfJson {s : String} {rows : List Row} (h : listOfJson s = .ok rows) :
    ∃ js, (Json.array js).SpelledBy s ∧ List.Forall₂ FromJson js rows := by
  obtain ⟨_, hs, js, rfl, hall⟩ :=
    Json.spelledBy_of_readText (fun _ => Json.readsOnly_readArray readsOnly_fromJson) h
  exact ⟨js, hs, hall⟩

theorem made_of_fetchAll {σ : Type} {b : Backend σ} {statement : Statement} {c c' : Connection σ}
    {rows : List Row} (h : Connection.fetchAll b statement c = (.ok rows, c')) :
    ∃ scalars raws, Connection.bindAll statement.params = .ok scalars
      ∧ (b.fetchAll statement.sql scalars c.database).1 = .ok raws
      ∧ List.Forall₂ Made raws rows := by
  unfold Connection.fetchAll at h
  split at h
  next => cases h
  next scalars hscalars =>
    split at h
    next => cases h
    next raws db' hraws =>
      cases h
      refine ⟨scalars, raws, hscalars, by rw [hraws], ?_⟩
      exact List.forall₂_map_right_iff.mpr (List.forall₂_same.mpr fun raw _ => made_ofPairs raw)

/-- A row is an ordered map, wherever it comes from.  Rows come from setting columns, also from the
pairs of a list, the members of an object or of the objects of an array, and the columns that a
backend answers with, all set one after the other in the order in which they stand there.  What is
set this way gives as many columns as values, the columns distinct and in the order in which they
were first set, each with the value that was set last.  The laws of setting and looking up hold for
every row. -/
theorem ordered_map {σ : Type} (b : Backend σ) :
    (∀ pairs, Made pairs (ofPairs pairs))
      ∧ (∀ s r, ofJson s = .ok r → ∃ j : Json, j.SpelledBy s ∧ FromJson j r)
      ∧ (∀ s rows, listOfJson s = .ok rows →
          ∃ js, (Json.array js).SpelledBy s ∧ List.Forall₂ FromJson js rows)
      ∧ (∀ statement c rows c', Connection.fetchAll b statement c = (.ok rows, c') →
          ∃ scalars raws, Connection.bindAll statement.params = .ok scalars
            ∧ (b.fetchAll statement.sql scalars c.database).1 = .ok raws
            ∧ List.Forall₂ Made raws rows)
      ∧ ∀ pairs r, Made pairs r → r.Holds pairs ∧ r.Lawful :=
  ⟨made_ofPairs, fun _ _ h => fromJson_of_ofJson h, fun _ _ h => fromJson_of_listOfJson h,
    fun _ _ _ _ h => made_of_fetchAll h, fun _ r h => ⟨h.holds, r.lawful⟩⟩

end Row

/-- The columns that are set, one of them twice. -/
def repeated : RawRow := [("b", .int 1), ("a", .int 2), ("b", .int 3)]

/-- An object with a member twice. -/
def repeatedText : String := "\x7b\"b\": 1, \"a\": 2, \"b\": 3\x7d"

/-- A backend that answers every query with a column twice. -/
def repeating : Backend Unit where
  name := "repeating"
  execute _ _ s := (.ok ⟨0, none⟩, s)
  fetchAll _ _ s := (.ok [repeated], s)

/-- The column stands where it is first, with the value that is last. -/
theorem Row.ordered_map_repeating :
    ∃ r, Connection.fetchAll repeating (.plain "SELECT 1") ⟨(), none⟩ = (.ok [r], ⟨(), none⟩)
      ∧ r.columns = ["b", "a"]
      ∧ r.get? "b" = some (.int 3)
      ∧ (r.set "b" .null).set "a" (.bool true) = (r.set "a" (.bool true)).set "b" .null
      ∧ ∃ s, ofJson repeatedText = .ok s
          ∧ ∃ pairs, Made pairs s ∧ s.Holds pairs := by
  obtain ⟨-, hjson, -, hfetch, hmap⟩ := ordered_map repeating
  have hrow : Connection.fetchAll repeating (.plain "SELECT 1") ⟨(), none⟩
      = (.ok [ofPairs repeated], ⟨(), none⟩) := rfl
  obtain ⟨_, raws, -, hraws, hall⟩ := hfetch _ _ _ _ hrow
  cases hraws
  obtain ⟨hmade, -⟩ := List.forall₂_cons.mp hall
  obtain ⟨hholds, hlawful⟩ := hmap _ _ hmade
  have hcolumns : (ofPairs repeated).columns = ["b", "a"] := hholds.columns_eq.trans (by decide)
  refine ⟨ofPairs repeated, hrow, hcolumns, hholds.get?_eq "b", ?_, ?_⟩
  · exact hlawful.set_comm _ _ _ _ (by decide) (by rw [hcolumns]; decide)
      (by rw [hcolumns]; decide)
  · cases hs : ofJson repeatedText with
    | error fault =>
      have hok : (ofJson repeatedText).toOption.isSome = true := by
        decide +kernel
      rw [hs] at hok
      cases hok
    | ok s =>
      obtain ⟨j, -, members, pairs, -, -, hmade⟩ := hjson _ _ hs
      exact ⟨s, rfl, pairs, hmade, (hmap _ _ hmade).1⟩

end BoundSql
