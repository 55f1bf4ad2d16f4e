import BoundSql.Driver.Script
import BoundSql.Proofs.Session

/-!
# Transactions

An action runs between `BEGIN` and one more statement, which *settles* the transaction if
it is a `ROLLBACK`, or a `COMMIT` that the driver accepts (`Driver.Settles`).

What a transaction sends is known from how its body ends.  A body that fails is followed
by `ROLLBACK` and its failure is passed on.  A body that does not fail is followed by
`COMMIT`, and by nothing else: if the driver rejects the `COMMIT`, the transaction fails
and stays open.  `Session.transaction_left_open_iff` says that there is no other way to
leave one open.
-/

namespace BoundSql

namespace Statement

/-- The statement in front of a transaction. -/
def begin : Statement := .plain "BEGIN"

/-- The statement that keeps what a transaction did. -/
def commit : Statement := .plain "COMMIT"

/-- The statement that undoes what a transaction did. -/
def rollback : Statement := .plain "ROLLBACK"

theorem scalar_plain (sql : String) : (plain sql).Scalar := fun _ hv => absurd hv List.not_mem_nil

theorem commit_ne_rollback : commit ≠ rollback := by
  intro h
  have hsql : "COMMIT" = "ROLLBACK" := congrArg Statement.sql h
  exact absurd hsql (by decide)

end Statement

namespace Driver

variable {σ : Type} {driver : Driver σ} {db : σ} {statement : Statement}

/-- The state behind statements that are sent for their outcome, whatever the answers. -/
def stateAfter (driver : Driver σ) (db : σ) (statements : List Statement) : σ :=
  statements.foldl (fun db statement => (driver.execute statement db).2) db

/-- Statements that are sent from a state on settle a transaction: the last of them is a
`ROLLBACK`, or a `COMMIT` that the driver accepts. -/
def Settles (driver : Driver σ) (db : σ) (statements : List Statement) : Prop :=
  ∃ before last, statements = before ++ [last]
    ∧ (last = .rollback ∨ last = .commit
      ∧ ∃ outcome db', driver.execute last (driver.stateAfter db before) = (.ok outcome, db'))

theorem settles_singleton : driver.Settles db [statement]
    ↔ statement = .rollback ∨ statement = .commit
      ∧ ∃ outcome db', driver.execute statement db = (.ok outcome, db') := by
  constructor
  · rintro ⟨before, last, hsplit, hlast⟩
    cases before with
    | nil =>
        cases hsplit
        exact hlast
    | cons first before =>
        have htail : before ++ [last] = [] := (List.cons.inj hsplit).2.symm
        simp at htail
  · intro h
    exact ⟨[], statement, rfl, h⟩

/-- A `COMMIT` settles a transaction unless the driver rejects it. -/
theorem not_settles_commit : ¬ driver.Settles db [.commit]
    ↔ ∃ cause db', driver.execute .commit db = (.error cause, db') := by
  rw [settles_singleton]
  cases hcommit : driver.execute .commit db with
  | mk answer db' =>
      cases answer with
      | ok outcome =>
          constructor
          · intro hopen
            exact absurd (Or.inr ⟨rfl, outcome, db', rfl⟩) hopen
          · rintro ⟨cause, _, hrejected⟩
            cases hrejected
      | error cause =>
          constructor
          · intro _
            exact ⟨cause, db', rfl⟩
          · rintro _ (heq | ⟨_, outcome, _, haccepted⟩)
            · exact Statement.commit_ne_rollback heq
            · cases haccepted

end Driver

namespace Session

variable {σ α : Type} {s : Session σ} {statement : Statement} {db db₁ : σ}

/-! ## Single statements -/

/-- A statement without lists is sent once, whatever the answer. -/
theorem calls_execute (h : statement.Scalar) :
    ((s.execute statement).run db).calls = [⟨.execute, statement⟩] := by
  cases hanswer : s.driver.execute statement db with
  | mk answer db' =>
      cases answer with
      | ok outcome =>
          rw [run_execute_ok h hanswer]
          rfl
      | error cause =>
          rw [run_execute_error h hanswer]
          rfl

/-- `ROLLBACK` is sent, and that it is rejected is no failure. -/
theorem run_rollback (s : Session σ) (db : σ) :
    (s.rollback.run db).result = .ok () ∧ (s.rollback.run db).calls = [⟨.execute, .rollback⟩] := by
  have hscalar : Statement.rollback.Scalar := Statement.scalar_plain _
  rw [rollback, Action.run_attempt_bind]
  cases hanswer : s.driver.execute .rollback db with
  | mk answer db' =>
      cases answer with
      | ok outcome =>
          rw [show Statement.plain "ROLLBACK" = .rollback from rfl, run_execute_ok hscalar hanswer]
          exact ⟨rfl, rfl⟩
      | error cause =>
          rw [show Statement.plain "ROLLBACK" = .rollback from rfl,
            run_execute_error hscalar hanswer]
          exact ⟨rfl, rfl⟩

/-! ## Transactions -/

/-- What is done when a transaction has begun. -/
def beginEffects (outcome : Outcome) : List Effect :=
  [.sent ⟨.execute, .begin⟩, .logged (.executed .begin outcome.affected)]

/-- Nothing is done inside a transaction that does not begin. -/
theorem run_transaction_not_begun (body : Action σ α) {cause : DriverFailure}
    (hbegin : s.driver.execute .begin db = (.error cause, db₁)) :
    (s.transaction body).run db = ⟨.error (.rejected .begin cause), db₁,
      [.sent ⟨.execute, .begin⟩, .logged (.rejected .begin cause)]⟩ := by
  have hrun := run_execute_error (Statement.scalar_plain "BEGIN") hbegin
  rw [transaction, Action.run_bind_error (by rw [hrun]), hrun]
  rfl

section

variable {outcome : Outcome} {body : Action σ α}

/-- A body that does not fail is followed by `COMMIT`. -/
theorem run_transaction_ok {a : α} (hbegin : s.driver.execute .begin db = (.ok outcome, db₁))
    (hbody : (body.run db₁).result = .ok a) :
    (s.transaction body).run db
      = ((((s.execute .commit).run (body.run db₁).state).map fun _ => a).after
          (body.run db₁).effects).after (beginEffects outcome) := by
  have hrun := run_execute_ok (Statement.scalar_plain "BEGIN") hbegin
  rw [transaction, Action.run_bind_ok (by rw [hrun]), hrun, Action.run_attempt_bind, hbody]
  show ((Ending.after _ ((s.execute .commit >>= fun _ => pure a).run _)).after _) = _
  rw [Action.run_bind_pure (s.execute .commit) fun _ => a]
  rfl

/-- A body that fails is followed by `ROLLBACK`, and its failure is the one of the
transaction. -/
theorem run_transaction_error {failure : Failure}
    (hbegin : s.driver.execute .begin db = (.ok outcome, db₁))
    (hbody : (body.run db₁).result = .error failure) :
    (s.transaction body).run db
      = (Ending.after (body.run db₁).effects ⟨.error failure,
          (s.rollback.run (body.run db₁).state).state,
          (s.rollback.run (body.run db₁).state).effects⟩).after (beginEffects outcome) := by
  have hrun := run_execute_ok (Statement.scalar_plain "BEGIN") hbegin
  have hrollback := (run_rollback s (body.run db₁).state).1
  rw [transaction, Action.run_bind_ok (by rw [hrun]), hrun, Action.run_attempt_bind, hbody]
  show ((Ending.after _ ((s.rollback >>= fun _ => Action.fail failure).run _)).after _) = _
  rw [Action.run_bind_ok hrollback]
  show Ending.after _ (Ending.after _ (Ending.mk _ _ (_ ++ []))) = _
  rw [List.append_nil]
  rfl

theorem calls_transaction_ok {a : α} (hbegin : s.driver.execute .begin db = (.ok outcome, db₁))
    (hbody : (body.run db₁).result = .ok a) :
    ((s.transaction body).run db).calls
      = ⟨.execute, .begin⟩ :: ((body.run db₁).calls ++ [⟨.execute, .commit⟩]) := by
  have hscalar : Statement.commit.Scalar := Statement.scalar_plain _
  rw [run_transaction_ok hbegin hbody, Ending.calls_after, Ending.calls_after]
  show _ ++ (_ ++ ((s.execute .commit).run _).calls) = _
  rw [calls_execute hscalar]
  rfl

theorem calls_transaction_error {failure : Failure}
    (hbegin : s.driver.execute .begin db = (.ok outcome, db₁))
    (hbody : (body.run db₁).result = .error failure) :
    ((s.transaction body).run db).calls
      = ⟨.execute, .begin⟩ :: ((body.run db₁).calls ++ [⟨.execute, .rollback⟩]) := by
  rw [run_transaction_error hbegin hbody, Ending.calls_after, Ending.calls_after]
  show _ ++ (_ ++ (s.rollback.run _).calls) = _
  rw [(run_rollback s _).2]
  rfl

end

/-- What a transaction does.  If it does not begin, nothing else is done.  Otherwise the
body runs, and exactly one statement stands behind it: `COMMIT` if the body does not fail,
and else `ROLLBACK`, behind which the failure of the body is passed on.  The transaction is
left open just if that statement is a `COMMIT` and the driver rejects it. -/
theorem transaction_left_open_iff (s : Session σ) (body : Action σ α) (db : σ) :
    (∀ cause db₁, s.driver.execute .begin db = (.error cause, db₁) →
        (s.transaction body).run db = ⟨.error (.rejected .begin cause), db₁,
          [.sent ⟨.execute, .begin⟩, .logged (.rejected .begin cause)]⟩)
      ∧ ∀ outcome db₁, s.driver.execute .begin db = (.ok outcome, db₁) →
        ∃ closing : List Statement,
          ((s.transaction body).run db).calls
              = ⟨.execute, .begin⟩ :: ((body.run db₁).calls ++ closing.map (Call.mk .execute))
            ∧ (∀ failure, (body.run db₁).result = .error failure →
                closing = [.rollback] ∧ ((s.transaction body).run db).result = .error failure)
            ∧ (∀ a, (body.run db₁).result = .ok a → closing = [.commit]
                ∧ (∀ outcome db₂, s.driver.execute .commit (body.run db₁).state = (.ok outcome, db₂) →
                    ((s.transaction body).run db).result = .ok a)
                ∧ ∀ cause db₂, s.driver.execute .commit (body.run db₁).state = (.error cause, db₂) →
                    ((s.transaction body).run db).result = .error (.rejected .commit cause))
            ∧ (¬ s.driver.Settles (body.run db₁).state closing
                ↔ (∃ a, (body.run db₁).result = .ok a) ∧ ∃ cause db₂,
                    s.driver.execute .commit (body.run db₁).state = (.error cause, db₂)) := by
  refine ⟨fun cause db₁ hbegin => run_transaction_not_begun body hbegin, ?_⟩
  intro outcome db₁ hbegin
  cases hbody : (body.run db₁).result with
  | error failure =>
      refine ⟨[.rollback], calls_transaction_error hbegin hbody, ?_, ?_, ?_⟩
      · intro failure' hfailure
        cases hfailure
        exact ⟨rfl, congrArg Ending.result (run_transaction_error hbegin hbody)⟩
      · intro a ha
        cases ha
      · constructor
        · intro hopen
          exact absurd (Driver.settles_singleton.mpr (Or.inl rfl)) hopen
        · rintro ⟨⟨a, ha⟩, _⟩
          cases ha
  | ok a =>
      have hrun := run_transaction_ok hbegin hbody
      have hscalar : Statement.commit.Scalar := Statement.scalar_plain _
      refine ⟨[.commit], calls_transaction_ok hbegin hbody, ?_, ?_, ?_⟩
      · intro failure hfailure
        cases hfailure
      · intro a' ha
        cases ha
        refine ⟨rfl, ?_, ?_⟩
        · intro outcome db₂ hcommit
          rw [hrun, run_execute_ok hscalar hcommit]
          rfl
        · intro cause db₂ hcommit
          rw [hrun, run_execute_error hscalar hcommit]
          rfl
      -- nothing stands behind a `COMMIT` that the driver rejects
      · rw [Driver.not_settles_commit]
        exact ⟨fun hrejected => ⟨⟨a, rfl⟩, hrejected⟩, And.right⟩

/-- A database that takes two statements and rejects the third. -/
def busyAtCommit : Script where
  queue := [{}, { outcome := { affected := 1 } }, { failure := some { message := "busy" } }]

/-- A session on a scripted database. -/
def scripted : Session Script := ⟨Script.driver "sqlite", .sqlite, 100⟩

/-- A row is inserted. -/
def insertion : Action Script Outcome := scripted.execute ⟨"INSERT INTO t (a) VALUES (?)", [.int 1]⟩

/-- The insert between `BEGIN` and the rejected `COMMIT` is neither kept nor undone. -/
theorem transaction_left_open_busy :
    ∃ db₁, scripted.driver.execute .begin busyAtCommit = (.ok {}, db₁)
      ∧ ((scripted.transaction insertion).run busyAtCommit).calls.map (·.statement.sql)
        = ["BEGIN", "INSERT INTO t (a) VALUES (?)", "COMMIT"]
      ∧ ((scripted.transaction insertion).run busyAtCommit).result.isOk = false
      ∧ ¬ scripted.driver.Settles (insertion.run db₁).state [.commit] := by
  obtain ⟨closing, hcalls, _, hok, hopen⟩ :=
    (transaction_left_open_iff scripted insertion busyAtCommit).2 {} _ rfl
  obtain ⟨rfl, _, hrejected⟩ := hok _ rfl
  refine ⟨_, rfl, ?_, ?_, hopen.mpr ⟨⟨_, rfl⟩, _, _, rfl⟩⟩
  · rw [hcalls]
    rfl
  · rw [hrejected _ _ rfl]
    rfl

end Session

end BoundSql
