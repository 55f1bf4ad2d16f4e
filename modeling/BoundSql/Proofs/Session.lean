import BoundSql.Proofs.Action
import BoundSql.Proofs.Refusal
import BoundSql.Session

/-!
# Statements of a session

A session does one of three things with a statement.  It refuses it if there is a
list among the parameters, and then nothing is sent.  Or it sends the statement once
and takes the outcome, or fails because the driver does.

A driver *accepts* statements that it answers with outcomes, one after the other
(`Driver.Accepts`).  A statement is *scalar* if there is no list among its parameters.
-/

namespace BoundSql

/-! ## Drivers -/

namespace Driver

variable {σ : Type} {driver : Driver σ}

/-- From one state on the driver answers the statements with these outcomes, one after
the other, and ends in another state. -/
inductive Accepts (driver : Driver σ) : σ → List Statement → List Outcome → σ → Prop
  | done {db : σ} : Accepts driver db [] [] db
  | more {db db' db'' : σ} {statement : Statement} {statements : List Statement}
      {outcome : Outcome} {outcomes : List Outcome} :
      driver.execute statement db = (.ok outcome, db') →
      Accepts driver db' statements outcomes db'' →
      Accepts driver db (statement :: statements) (outcome :: outcomes) db''

end Driver

/-! ## Parameters -/

/-- There is no list among the parameters. -/
def Statement.Scalar (statement : Statement) : Prop := ∀ v ∈ statement.params, v.isScalar

instance (statement : Statement) : Decidable statement.Scalar :=
  inferInstanceAs (Decidable (∀ v ∈ statement.params, v.isScalar))

namespace Session

variable {σ : Type} {s : Session σ} {statement : Statement} {db db' : σ}

theorem checkParams_eq_ok : checkParams statement.params = .ok () ↔ statement.Scalar := by
  rw [Statement.Scalar, ← Value.firstNonScalar?_eq_none, checkParams]
  cases Value.firstNonScalar? statement.params with
  | none => exact ⟨fun _ => rfl, fun _ => rfl⟩
  | some e => exact ⟨fun h => (nomatch h), fun h => (nomatch h)⟩

theorem checkParams_eq_error (h : ¬ statement.Scalar) :
    ∃ refusal, checkParams statement.params = .error refusal := by
  cases hcheck : checkParams statement.params with
  | ok _ => exact absurd (checkParams_eq_ok.mp hcheck) h
  | error refusal => exact ⟨refusal, rfl⟩

/-! ## Statements -/

/-- A list among the parameters is refused before anything is sent. -/
theorem run_execute_refused {refusal : Refusal}
    (h : checkParams statement.params = .error refusal) :
    (s.execute statement).run db = ⟨.error (.refused refusal), db, []⟩ := by
  rw [execute, h, Action.run_ofCompiled_error_bind]

theorem run_execute_ok {outcome : Outcome} (h : statement.Scalar)
    (hanswer : s.driver.execute statement db = (.ok outcome, db')) :
    (s.execute statement).run db
      = ⟨.ok outcome, db', [.sent ⟨.execute, statement⟩,
          .logged (.executed statement outcome.affected)]⟩ := by
  rw [execute, checkParams_eq_ok.mpr h, Action.run_ofCompiled_ok_bind,
    Action.run_send_bind hanswer]
  rfl

theorem run_execute_error {cause : DriverFailure} (h : statement.Scalar)
    (hanswer : s.driver.execute statement db = (.error cause, db')) :
    (s.execute statement).run db
      = ⟨.error (.rejected statement cause), db', [.sent ⟨.execute, statement⟩,
          .logged (.rejected statement cause)]⟩ := by
  rw [execute, checkParams_eq_ok.mpr h, Action.run_ofCompiled_ok_bind,
    Action.run_send_bind hanswer]
  rfl

theorem run_fetchAll_refused {refusal : Refusal}
    (h : checkParams statement.params = .error refusal) :
    (s.fetchAll statement).run db = ⟨.error (.refused refusal), db, []⟩ := by
  rw [fetchAll, h, Action.run_ofCompiled_error_bind]

theorem run_fetchAll_ok {rows : List Row} (h : statement.Scalar)
    (hanswer : s.driver.fetchAll statement db = (.ok rows, db')) :
    (s.fetchAll statement).run db
      = ⟨.ok rows, db', [.sent ⟨.fetchAll, statement⟩,
          .logged (.fetched statement rows.length)]⟩ := by
  rw [fetchAll, checkParams_eq_ok.mpr h, Action.run_ofCompiled_ok_bind,
    Action.run_send_bind hanswer]
  rfl

theorem run_fetchAll_error {cause : DriverFailure} (h : statement.Scalar)
    (hanswer : s.driver.fetchAll statement db = (.error cause, db')) :
    (s.fetchAll statement).run db
      = ⟨.error (.rejected statement cause), db', [.sent ⟨.fetchAll, statement⟩,
          .logged (.rejected statement cause)]⟩ := by
  rw [fetchAll, checkParams_eq_ok.mpr h, Action.run_ofCompiled_ok_bind,
    Action.run_send_bind hanswer]
  rfl

/-! ## Opening -/

theorem toNat_maxBindParams (d : Dialect) :
    (UInt64.ofNat d.maxBindParams).toNat = d.maxBindParams := by
  cases d with
  | mysql => rfl
  | sqlite => rfl

/-- What a session that was opened is. -/
theorem result_make {driver : Driver σ} {requested : UInt64}
    (h : ((make driver requested).run db).result = .ok s) :
    s.driver = driver ∧ Dialect.ofDriverName driver.name = .ok s.dialect
      ∧ s.maxParams = min requested (UInt64.ofNat s.dialect.maxBindParams) := by
  rw [make] at h
  generalize Dialect.ofDriverName driver.name = named at h ⊢
  cases named with
  | error refusal =>
      rw [Action.run_ofCompiled_error_bind] at h
      cases h
  | ok dialect =>
      rw [Action.run_ofCompiled_ok_bind] at h
      by_cases hzero : requested = 0
      · rw [if_pos hzero] at h
        cases h
      · rw [if_neg hzero] at h
        by_cases hclamped : min requested (UInt64.ofNat dialect.maxBindParams) < requested
        · simp only [if_pos hclamped] at h
          cases h
          exact ⟨rfl, rfl, rfl⟩
        · simp only [if_neg hclamped] at h
          cases h
          exact ⟨rfl, rfl, rfl⟩

end Session

end BoundSql
