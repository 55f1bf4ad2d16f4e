import BoundSql.Action
import BoundSql.Proofs.Batch.Plan

/-!
# Runs of actions

What an action does is taken apart along the way it is put together.  If its first
part ends with a result, the run goes on with the second part, behind the effects of
the first (`Action.run_bind_ok`).  If the first part fails, so does the whole, and
nothing more happens (`Action.run_bind_error`).
-/

namespace BoundSql

/-- The statement that is sent for its outcome. -/
def Effect.executed? : Effect → Option Statement
  | .sent ⟨.execute, statement⟩ => some statement
  | _ => none

/-- Records are looked past when statements are picked out of the effects. -/
theorem Effect.filterMap_logged {α : Type} {pick : Effect → Option α}
    (h : ∀ record, pick (.logged record) = none) (records : List LogRecord) :
    (records.map Effect.logged).filterMap pick = [] := by
  rw [List.filterMap_map]
  exact List.filterMap_eq_nil_iff.mpr fun record _ => h record

namespace Ending

variable {σ α : Type}

/-- The ending of an action that was done behind some effects. -/
def after (before : List Effect) (e : Ending σ α) : Ending σ α :=
  { e with effects := before ++ e.effects }

@[simp] theorem calls_after (before : List Effect) (e : Ending σ α) :
    (e.after before).calls = before.filterMap Effect.call? ++ e.calls :=
  List.filterMap_append

@[simp] theorem events_after (before : List Effect) (e : Ending σ α) :
    (e.after before).events = before.filterMap Effect.event? ++ e.events :=
  List.filterMap_append

@[simp] theorem overflows_after (before : List Effect) (e : Ending σ α) :
    (e.after before).overflows = (before.any Effect.isOverflow || e.overflows) :=
  List.any_append

/-- The ending with its result put into another form. -/
def map {β : Type} (f : α → β) (e : Ending σ α) : Ending σ β :=
  ⟨e.result.map f, e.state, e.effects⟩

theorem map_id (e : Ending σ α) : e.map id = e := by
  rw [map, Except.map_id]
  rfl

theorem map_map {β γ : Type} (f : α → β) (g : β → γ) (e : Ending σ α) :
    (e.map f).map g = e.map (g ∘ f) := by
  rw [map, map, map]
  cases e.result with
  | ok a => rfl
  | error failure => rfl

theorem after_after (first second : List Effect) (e : Ending σ α) :
    (e.after second).after first = e.after (first ++ second) := by
  rw [after, after, after, List.append_assoc]

/-- The statements that were sent for their outcome, in order. -/
def executed (e : Ending σ α) : List Statement := e.effects.filterMap Effect.executed?

@[simp] theorem executed_after (before : List Effect) (e : Ending σ α) :
    (e.after before).executed = before.filterMap Effect.executed? ++ e.executed :=
  List.filterMap_append

end Ending

namespace Action

variable {σ α β : Type}

@[simp] theorem run_pure (a : α) (db : σ) : (pure a : Action σ α).run db = ⟨.ok a, db, []⟩ := rfl

theorem run_bind_ok {x : Action σ α} {next : α → Action σ β} {db : σ} {a : α}
    (h : (x.run db).result = .ok a) :
    (x >>= next).run db = ((next a).run (x.run db).state).after (x.run db).effects := by
  show (andThen x next).run db = _
  rw [andThen]
  simp only [h]
  rfl

theorem run_bind_error {x : Action σ α} {next : α → Action σ β} {db : σ} {failure : Failure}
    (h : (x.run db).result = .error failure) :
    (x >>= next).run db = ⟨.error failure, (x.run db).state, (x.run db).effects⟩ := by
  show (andThen x next).run db = _
  rw [andThen]
  simp only [h]

/-- A record stands before all that is done behind it. -/
@[simp] theorem run_log_bind (record : LogRecord) (next : Unit → Action σ β) (db : σ) :
    (log record >>= next).run db = ((next ()).run db).after [.logged record] := rfl

/-- What is left behind by a sum. -/
def overflow (a b : UInt64) : List Effect :=
  if a.toNat + b.toNat < UInt64.size then [] else [.overflowed]

theorem run_add (a b : UInt64) (db : σ) : (add a b).run db = ⟨.ok (a + b), db, overflow a b⟩ := by
  by_cases hsum : a.toNat + b.toNat < UInt64.size
  · rw [add, Checked.add_eq hsum, overflow, if_pos hsum]
    rfl
  · rw [add, Checked.add_eq_none hsum, overflow, if_neg hsum]
    rfl

/-- The sum goes on, and the effect of one that is no word stands before all that is done
behind it. -/
theorem run_add_bind (a b : UInt64) (next : UInt64 → Action σ β) (db : σ) :
    (add a b >>= next).run db = ((next (a + b)).run db).after (overflow a b) := by
  rw [run_bind_ok (by rw [run_add]), run_add]

/-- A sum is looked past when statements are picked out of the effects. -/
theorem filterMap_overflow {γ : Type} {pick : Effect → Option γ} (h : pick .overflowed = none)
    (a b : UInt64) : (overflow a b).filterMap pick = [] := by
  refine List.filterMap_eq_nil_iff.mpr fun effect heffect => ?_
  rw [overflow] at heffect
  split at heffect
  · cases heffect
  · cases List.mem_singleton.mp heffect
    exact h

theorem any_overflow (a b : UInt64) :
    (overflow a b).any Effect.isOverflow ↔ UInt64.size ≤ a.toNat + b.toNat := by
  rw [overflow, ← Nat.not_lt]
  by_cases hsum : a.toNat + b.toNat < UInt64.size
  · rw [if_pos hsum]
    exact iff_of_false Bool.false_ne_true (not_not_intro hsum)
  · rw [if_neg hsum]
    exact iff_of_true rfl hsum

/-- A compilation that succeeds does nothing to the run behind it. -/
@[simp] theorem run_ofCompiled_ok_bind (a : α) (next : α → Action σ β) (db : σ) :
    (ofCompiled (.ok a) >>= next).run db = (next a).run db := rfl

/-- A compilation that is refused ends the run before anything happens. -/
@[simp] theorem run_ofCompiled_error_bind (refusal : Refusal) (next : α → Action σ β) (db : σ) :
    (ofCompiled (.error refusal) >>= next).run db = ⟨.error (.refused refusal), db, []⟩ := rfl

/-- A statement that is sent stands behind all that comes of its answer. -/
theorem run_send_bind {kind : CallKind} {run : Statement → σ → Except DriverFailure α × σ}
    {statement : Statement} {next : Except DriverFailure α → Action σ β}
    {answer : Except DriverFailure α} {db db' : σ} (h : run statement db = (answer, db')) :
    (send kind run statement >>= next).run db
      = ((next answer).run db').after [.sent ⟨kind, statement⟩] := by
  have hsend : (send kind run statement).run db = ⟨.ok answer, db', [.sent ⟨kind, statement⟩]⟩ := by
    simp only [send, h]
  rw [run_bind_ok (by rw [hsend]), hsend]

/-- How an action ends decides what is done behind it, and what it did stands in front. -/
theorem run_attempt_bind (x : Action σ α) (next : Except Failure α → Action σ β) (db : σ) :
    (x.attempt >>= next).run db
      = ((next (x.run db).result).run (x.run db).state).after (x.run db).effects := rfl

/-- An action whose result is put into another form. -/
theorem run_bind_pure (x : Action σ α) (f : α → β) (db : σ) :
    (x >>= fun a => pure (f a)).run db = (x.run db).map f := by
  cases hresult : (x.run db).result with
  | ok a =>
      rw [run_bind_ok hresult, Ending.map, hresult]
      show Ending.mk _ _ (_ ++ []) = _
      rw [List.append_nil]
      rfl
  | error failure =>
      rw [run_bind_error hresult, Ending.map, hresult]
      rfl

/-- Actions that have one effect each, one after the other. -/
theorem run_each {f : α → Action σ Unit} {effect : α → Effect}
    (h : ∀ a db, (f a).run db = ⟨.ok (), db, [effect a]⟩) (as : List α) (db : σ) :
    (each f as).run db = ⟨.ok (), db, as.map effect⟩ := by
  induction as with
  | nil => rfl
  | cons a as ih =>
    show (f a >>= fun _ => each f as).run db = _
    rw [run_bind_ok (by rw [h]), h, ih]
    rfl

end Action

end BoundSql
