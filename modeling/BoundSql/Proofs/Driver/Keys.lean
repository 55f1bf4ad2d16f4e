import BoundSql.Driver.Connection

/-!
# Keys that a driver remembers

A driver reports the key that was made for an inserted row in the outcome of the insert,
and it can be asked for the key that it reported last.  Outcomes without a key leave the
last key as it is (`Driver.RemembersKeys`), and both databases are used through
connections that do so (`Backend.remembersKeys`).

After any history of statements the last key is the one that was reported most recently
in it (`Driver.History.lastInsertId_eq`), however many outcomes without a key came later.
-/

namespace BoundSql

/-- The key that was reported most recently in some outcomes. -/
def recentKey? (outcomes : List Outcome) : Option Int64 :=
  (outcomes.filterMap Outcome.insertId).getLast?

theorem recentKey?_append (outcomes : List Outcome) (outcome : Outcome) :
    recentKey? (outcomes ++ [outcome]) = outcome.insertId.or (recentKey? outcomes) := by
  unfold recentKey?
  rw [List.filterMap_append, List.getLast?_append]
  cases outcome with
  | mk affected insertId => cases insertId <;> rfl

namespace Driver

variable {σ : Type} {driver : Driver σ}

/-- The last key is the one that was reported last, and nothing but a report changes it. -/
structure RemembersKeys (driver : Driver σ) : Prop where
  accepted {statement : Statement} {db db' : σ} {outcome : Outcome} :
    driver.execute statement db = (.ok outcome, db') →
      driver.lastInsertId db' = outcome.insertId.or (driver.lastInsertId db)
  rejected {statement : Statement} {db db' : σ} {cause : DriverFailure} :
    driver.execute statement db = (.error cause, db') →
      driver.lastInsertId db' = driver.lastInsertId db
  fetched {statement : Statement} {db db' : σ} {answer : Except DriverFailure (List Row)} :
    driver.fetchAll statement db = (answer, db') →
      driver.lastInsertId db' = driver.lastInsertId db

/-- Statements that were sent one after the other, with the outcomes of those that were
accepted. -/
inductive History (driver : Driver σ) : σ → List Outcome → σ → Prop
  | start {db : σ} : History driver db [] db
  | accepted {db db' db'' : σ} {statement : Statement} {outcomes : List Outcome}
      {outcome : Outcome} :
      History driver db outcomes db' → driver.execute statement db' = (.ok outcome, db'') →
      History driver db (outcomes ++ [outcome]) db''
  | rejected {db db' db'' : σ} {statement : Statement} {outcomes : List Outcome}
      {cause : DriverFailure} :
      History driver db outcomes db' → driver.execute statement db' = (.error cause, db'') →
      History driver db outcomes db''
  | fetched {db db' db'' : σ} {statement : Statement} {outcomes : List Outcome}
      {answer : Except DriverFailure (List Row)} :
      History driver db outcomes db' → driver.fetchAll statement db' = (answer, db'') →
      History driver db outcomes db''

/-- The last key stays what was reported most recently. -/
theorem History.lastInsertId_eq (hkeys : driver.RemembersKeys) {db db' : σ}
    {outcomes : List Outcome} (h : driver.History db outcomes db') :
    driver.lastInsertId db' = (recentKey? outcomes).or (driver.lastInsertId db) := by
  induction h with
  | start => rfl
  | accepted _ hanswer ih =>
      rw [hkeys.accepted hanswer, ih, recentKey?_append, Option.or_assoc]
  | rejected _ hanswer ih => rw [hkeys.rejected hanswer, ih]
  | fetched _ hanswer ih => rw [hkeys.fetched hanswer, ih]

end Driver

/-- A connection remembers its keys, whatever backend it is to. -/
theorem Backend.remembersKeys {σ : Type} (b : Backend σ) : b.driver.RemembersKeys where
  accepted {statement c c' outcome} h := by
    have hexecute : Connection.execute b statement c = (.ok outcome, c') := h
    show c'.lastInsertId = outcome.insertId.or c.lastInsertId
    unfold Connection.execute at hexecute
    split at hexecute
    · cases hexecute
    · split at hexecute
      · cases hexecute
      · cases hexecute
        exact Option.or_eq_orElse.symm
  rejected {statement c c' cause} h := by
    have hexecute : Connection.execute b statement c = (.error cause, c') := h
    show c'.lastInsertId = c.lastInsertId
    unfold Connection.execute at hexecute
    split at hexecute
    · cases hexecute
      rfl
    · split at hexecute
      · cases hexecute
        rfl
      · cases hexecute
  fetched {statement c c' answer} h := by
    have hfetch : Connection.fetchAll b statement c = (answer, c') := h
    show c'.lastInsertId = c.lastInsertId
    unfold Connection.fetchAll at hfetch
    split at hfetch
    · cases hfetch
      rfl
    · split at hfetch <;>
      · cases hfetch
        rfl

end BoundSql
