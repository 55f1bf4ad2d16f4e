import BoundSql.Proofs.Session.Transaction

/-!
# What actions do at most

An action does *only* things with some property if all of its effects have the property,
whatever the state of the database is (`Action.Only`).  Actions that are put together
from such actions are again such (`Action.Only.bind`, `Action.Only.attempt`,
`Action.Only.each`), and so what a program does at most is known from the statements that
its parts send.
-/

namespace BoundSql

namespace Action

variable {σ α β : Type} {P : Effect → Prop}

/-- All effects of the action have the property, in any run. -/
def Only (P : Effect → Prop) (x : Action σ α) : Prop := ∀ db, ∀ e ∈ (x.run db).effects, P e

namespace Only

theorem pure (a : α) : Only P (pure a : Action σ α) := by
  intro db e he
  exact absurd he List.not_mem_nil

theorem fail (failure : Failure) : Only P (fail failure : Action σ α) := by
  intro db e he
  exact absurd he List.not_mem_nil

theorem view (f : σ → α) : Only P (view f) := by
  intro db e he
  exact absurd he List.not_mem_nil

theorem emit {effect : Effect} (h : P effect) : Only P (emit effect : Action σ Unit) := by
  intro db e he
  cases List.mem_singleton.mp he
  exact h

theorem log {record : LogRecord} (h : P (.logged record)) : Only P (log record : Action σ Unit) :=
  emit h

theorem add (h : P .overflowed) (a b : UInt64) : Only P (add a b : Action σ UInt64) := by
  intro db e he
  rw [run_add, overflow] at he
  split at he
  · cases he
  · cases List.mem_singleton.mp he
    exact h

theorem send {kind : CallKind} {run : Statement → σ → Except DriverFailure α × σ}
    {statement : Statement} (h : P (.sent ⟨kind, statement⟩)) : Only P (send kind run statement) := by
  intro db e he
  cases List.mem_singleton.mp he
  exact h

/-- A result of the first action may be assumed for the second. -/
theorem bind_result {x : Action σ α} {next : α → Action σ β} (hx : Only P x)
    (hnext : ∀ a, (∃ db, (x.run db).result = .ok a) → Only P (next a)) : Only P (x >>= next) := by
  intro db e he
  cases hresult : (x.run db).result with
  | error failure =>
      rw [run_bind_error hresult] at he
      exact hx db e he
  | ok a =>
      rw [run_bind_ok hresult] at he
      rcases List.mem_append.mp he with hfirst | hsecond
      · exact hx db e hfirst
      · exact hnext a ⟨db, hresult⟩ _ e hsecond

theorem bind {x : Action σ α} {next : α → Action σ β} (hx : Only P x)
    (hnext : ∀ a, Only P (next a)) : Only P (x >>= next) :=
  bind_result hx fun a _ => hnext a

/-- Behind a compilation only its result matters. -/
theorem compiled {x : Except Refusal α} {next : α → Action σ β}
    (hnext : ∀ a, x = .ok a → Only P (next a)) : Only P (ofCompiled x >>= next) := by
  cases x with
  | error refusal => exact fail _
  | ok a =>
      intro db e he
      rw [run_ofCompiled_ok_bind] at he
      exact hnext a rfl db e he

theorem attempt {x : Action σ α} (hx : Only P x) : Only P x.attempt := hx

theorem each {f : α → Action σ Unit} {as : List α} (h : ∀ a ∈ as, Only P (f a)) :
    Only P (each f as) := by
  induction as with
  | nil => exact pure ()
  | cons a as ih =>
      refine bind (h a List.mem_cons_self) fun _ => ih ?_
      intro b hb
      exact h b (List.mem_cons_of_mem a hb)

end Only

end Action

/-- A statement that is sent has the property. -/
def Effect.Sends (Q : Statement → Prop) : Effect → Prop
  | .sent call => Q call.statement
  | _ => True

theorem Action.Only.calls {σ α : Type} {Q : Statement → Prop} {x : Action σ α}
    (h : Only (Effect.Sends Q) x) (db : σ) : ∀ call ∈ (x.run db).calls, Q call.statement := by
  intro call hcall
  obtain ⟨e, he, heq⟩ := List.mem_filterMap.mp hcall
  cases e with
  | sent sent =>
      cases heq
      exact h db _ he
  | reported observer event => cases heq
  | logged record => cases heq
  | overflowed => cases heq

/-! ## Sessions -/

namespace Session

variable {σ α : Type} {P : Effect → Prop} {s : Session σ} {statement : Statement}

theorem only_accept {record : α → LogRecord} {answer : Except DriverFailure α}
    (hlog : ∀ record, P (.logged record)) :
    Action.Only P (accept statement record answer : Action σ α) := by
  cases answer with
  | ok a => exact .bind (.log (hlog _)) fun _ => .pure a
  | error cause => exact .bind (.log (hlog _)) fun _ => .fail _

theorem only_execute (hlog : ∀ record, P (.logged record))
    (hsent : P (.sent ⟨.execute, statement⟩)) : Action.Only P (s.execute statement) :=
  .compiled fun _ _ => .bind (.send hsent) fun _ => only_accept hlog

theorem only_fetchAll (hlog : ∀ record, P (.logged record))
    (hsent : P (.sent ⟨.fetchAll, statement⟩)) : Action.Only P (s.fetchAll statement) :=
  .compiled fun _ _ => .bind (.send hsent) fun _ => only_accept hlog

theorem only_query {select : Select} (hlog : ∀ record, P (.logged record))
    (hsent : ∀ statement, select.build = .ok statement → P (.sent ⟨.fetchAll, statement⟩)) :
    Action.Only P (s.query select) :=
  .compiled fun statement h => .bind (only_fetchAll hlog (hsent statement h)) fun _ => .pure _

/-- A transaction does what its body does, and sends three statements of its own. -/
theorem only_transaction {body : Action σ α} (hlog : ∀ record, P (.logged record))
    (hbegin : P (.sent ⟨.execute, .begin⟩)) (hcommit : P (.sent ⟨.execute, .commit⟩))
    (hrollback : P (.sent ⟨.execute, .rollback⟩)) (hbody : Action.Only P body) :
    Action.Only P (s.transaction body) := by
  refine .bind (only_execute hlog hbegin) fun _ => .bind hbody.attempt fun answer => ?_
  cases answer with
  | ok a => exact .bind (only_execute hlog hcommit) fun _ => .pure a
  | error failure =>
      refine .bind (.bind (only_execute hlog hrollback).attempt fun undone => ?_) fun _ => .fail _
      cases undone with
      | ok _ => exact .pure ()
      | error _ => exact .log (hlog _)

end Session

end BoundSql
