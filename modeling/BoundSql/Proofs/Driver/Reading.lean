import BoundSql.Driver.Sqlite
import BoundSql.Proofs.Action.Agree

/-!
# Queries that leave a database as it is

A connection remembers nothing of a query, so a query leaves it as it is if it leaves the database
as it is (`Connection.next_eq_self`).  Then whether calls are quiet is only a question of answers
(`Connection.quiet_iff_answers`).

The database in the program is never changed by a text with no other statements than `SELECT`, not
even if one of them fails (`Embedded.Database.state_runText`).
-/

namespace BoundSql

/-! ## The database in the program -/

namespace Embedded

/-- A statement that selects rows and does nothing else. -/
def Command.selects : Command → Bool
  | .select _ => true
  | _ => false

/-- All statements of the text select rows. -/
def onlySelects (sql : String) : Bool :=
  Database.asksForIndexes sql || (commands sql).1.all Command.selects

namespace Database

theorem state_run {params : List Cell} {db db' : Database} {c : Command} {answer : Answer}
    (hselects : c.selects) (h : db.run params c = .ok (answer, db')) : db' = db := by
  cases c with
  | select query =>
    obtain ⟨r, _, h⟩ := bind_eq_ok.mp h
    obtain ⟨rows, _, h⟩ := bind_eq_ok.mp h
    cases h
    rfl
  | create | insert | update | delete | start | commit | rollback => cases hselects

theorem state_runAll {params : List Cell} {ending : Option SqlFault} {cs : List Command}
    {answer : Answer} {db : Database} (h : cs.all Command.selects) :
    (runAll params ending cs answer db).2 = db := by
  induction cs generalizing answer with
  | nil => rfl
  | cons c cs ih =>
    rw [List.all_cons, Bool.and_eq_true] at h
    rw [runAll]
    cases hrun : db.run params c with
    | error fault => rfl
    | ok next =>
      obtain rfl : next.2 = db := state_run h.1 hrun
      exact ih h.2

/-- A text that only selects leaves the database as it is. -/
theorem state_runText {sql : String} (h : onlySelects sql) (params : List Cell) (db : Database) :
    (db.runText sql params).2 = db := by
  rw [runText]
  by_cases hindexes : asksForIndexes sql
  · rw [if_pos hindexes]
  · rw [onlySelects, Bool.not_eq_true _ |>.mp hindexes, Bool.false_or] at h
    rw [if_neg hindexes]
    exact state_runAll h

end Database

end Embedded

/-! ## Connections -/

namespace Connection

variable {σ : Type} {b : Backend σ}

/-- A query that leaves the database as it is leaves the connection as it is. -/
theorem next_eq_self {call : Call} (hkind : call.kind = .fetchAll)
    (h : ∀ params db, (b.fetchAll call.statement.sql params db).2 = db) (c : Connection σ) :
    b.driver.next c call = c := by
  have hstate : b.driver.next c call = (fetchAll b call.statement c).2 := by
    rw [Driver.next, hkind]
    rfl
  rw [hstate, fetchAll]
  cases bindAll call.statement.params with
  | error failure => rfl
  | ok scalars =>
    obtain ⟨answer, hanswer⟩ : ∃ answer,
        b.fetchAll call.statement.sql scalars c.database = (answer, c.database) :=
      ⟨_, Prod.ext rfl (h scalars c.database)⟩
    simp only [hanswer]
    cases answer <;> rfl

/-- Calls whose queries leave the database as it is are quiet if the queries are answered. -/
theorem quiet_iff_answers {calls : List Call} {c : Connection σ}
    (h : ∀ call ∈ calls, call.kind = .fetchAll →
      ∀ params db, (b.fetchAll call.statement.sql params db).2 = db) :
    b.driver.Quiet c calls ↔ b.driver.answers c calls :=
  Driver.quiet_iff_answers fun call hcall hkind => next_eq_self hkind (h call hcall hkind)

end Connection

/-- On the database in the program calls are quiet if their queries only select and are
answered. -/
theorem Sqlite.quiet_iff_answers {calls : List Call} {c : Sqlite.Connection}
    (h : ∀ call ∈ calls, call.kind = .fetchAll → Embedded.onlySelects call.statement.sql) :
    Sqlite.driver.Quiet c calls ↔ Sqlite.driver.answers c calls :=
  Connection.quiet_iff_answers fun call hcall hkind _ db =>
    Embedded.Database.state_runText (h call hcall hkind) _ db

end BoundSql
