import BoundSql.Proofs.Statement.Scalar

/-!
# When actions are refused

A refusal comes *first* (`Action.RefusedFirst`) if nothing else has happened when it is noticed.
This is so for every statement that is sent, since its parameters are checked before, and it
stays so if what is compiled is put in front (`Action.RefusedFirst.compiled`), or if what is put
behind is never refused (`Action.RefusedFirst.bind`).

Behind an action that is never refused itself, a refusal comes late, and what was done until then
is what that action did (`Action.Unrefused.of_bind`).
-/

namespace BoundSql

namespace Action

variable {σ α β : Type}

/-- The action is not refused in any run. -/
def Unrefused (x : Action σ α) : Prop :=
  ∀ db refusal, (x.run db).result ≠ .error (.refused refusal)

/-- If the action is refused, nothing happens. -/
def RefusedFirst (x : Action σ α) : Prop :=
  ∀ db refusal, (x.run db).result = .error (.refused refusal) → (x.run db).effects = []

namespace Unrefused

theorem pure (a : α) : Unrefused (pure a : Action σ α) := fun _ _ h => nomatch h

theorem view (f : σ → α) : Unrefused (view f) := fun _ _ h => nomatch h

theorem emit (effect : Effect) : Unrefused (emit effect : Action σ Unit) := fun _ _ h => nomatch h

theorem log (record : LogRecord) : Unrefused (log record : Action σ Unit) := emit _

theorem send (kind : CallKind) (run : Statement → σ → Except DriverFailure α × σ)
    (statement : Statement) : Unrefused (send kind run statement) := fun _ _ h => nomatch h

theorem bind {x : Action σ α} {next : α → Action σ β} (hx : Unrefused x)
    (hnext : ∀ a, Unrefused (next a)) : Unrefused (x >>= next) := by
  intro db refusal h
  cases hresult : (x.run db).result with
  | error failure =>
      rw [run_bind_error hresult] at h
      cases h
      exact hx db refusal hresult
  | ok a =>
      rw [run_bind_ok hresult] at h
      exact hnext a _ refusal h

theorem each {f : α → Action σ Unit} (h : ∀ a, Unrefused (f a)) :
    ∀ as : List α, Unrefused (each f as)
  | [] => pure ()
  | a :: as => bind (h a) fun _ => each h as

/-- What compiles is not refused. -/
theorem compiled {x : Except Refusal α} {a : α} {next : α → Action σ β} (hx : x = .ok a)
    (hnext : Unrefused (next a)) : Unrefused (ofCompiled x >>= next) := by
  cases hx
  exact hnext

/-- A refusal that comes behind an action that is not refused. -/
theorem of_bind {x : Action σ α} {next : α → Action σ β} (hx : Unrefused x)
    (hnext : ∀ a, RefusedFirst (next a)) {db : σ} {refusal : Refusal}
    (h : ((x >>= next).run db).result = .error (.refused refusal)) :
    ∃ a, (x.run db).result = .ok a
      ∧ ((next a).run (x.run db).state).result = .error (.refused refusal)
      ∧ ((x >>= next).run db).effects = (x.run db).effects := by
  cases hresult : (x.run db).result with
  | error failure =>
      rw [run_bind_error hresult] at h
      cases h
      exact absurd hresult (hx db refusal)
  | ok a =>
      rw [run_bind_ok hresult] at h ⊢
      have heffects : ((next a).run (x.run db).state).effects = [] := hnext a _ refusal h
      exact ⟨a, rfl, h, by rw [Ending.after, heffects, List.append_nil]⟩

end Unrefused

namespace RefusedFirst

theorem of_unrefused {x : Action σ α} (h : Unrefused x) : RefusedFirst x :=
  fun db refusal hrefused => absurd hrefused (h db refusal)

/-- What is compiled is refused before anything happens. -/
theorem compiled {x : Except Refusal α} {next : α → Action σ β}
    (hnext : ∀ a, x = .ok a → RefusedFirst (next a)) : RefusedFirst (ofCompiled x >>= next) := by
  cases x with
  | error refusal => exact fun _ _ _ => rfl
  | ok a => exact hnext a rfl

theorem bind {x : Action σ α} {next : α → Action σ β} (hx : RefusedFirst x)
    (hnext : ∀ a, Unrefused (next a)) : RefusedFirst (x >>= next) := by
  intro db refusal h
  cases hresult : (x.run db).result with
  | error failure =>
      rw [run_bind_error hresult] at h ⊢
      cases h
      exact hx db refusal hresult
  | ok a =>
      rw [run_bind_ok hresult] at h
      exact absurd h (hnext a _ refusal)

end RefusedFirst

end Action

namespace Session

variable {σ α : Type} {s : Session σ} {statement : Statement}

theorem unrefused_accept (record : α → LogRecord) (answer : Except DriverFailure α) :
    Action.Unrefused (accept statement record answer : Action σ α) := by
  cases answer with
  | ok a => exact .bind (.log _) fun _ => .pure a
  | error cause => exact .bind (.log _) fun _ _ _ h => nomatch h

theorem refusedFirst_execute (s : Session σ) (statement : Statement) :
    Action.RefusedFirst (s.execute statement) :=
  .compiled fun _ _ => .of_unrefused (.bind (.send _ _ _) fun _ => unrefused_accept _ _)

theorem refusedFirst_fetchAll (s : Session σ) (statement : Statement) :
    Action.RefusedFirst (s.fetchAll statement) :=
  .compiled fun _ _ => .of_unrefused (.bind (.send _ _ _) fun _ => unrefused_accept _ _)

theorem refusedFirst_query (s : Session σ) (select : Select) :
    Action.RefusedFirst (s.query select) :=
  .compiled fun statement _ => .bind (refusedFirst_fetchAll s statement) fun _ => .pure _

/-- Without lists there is nothing to refuse. -/
theorem unrefused_execute (h : statement.Scalar) : Action.Unrefused (s.execute statement) :=
  .compiled (checkParams_eq_ok.mpr h) (.bind (.send _ _ _) fun _ => unrefused_accept _ _)

/-- With a list nothing is sent, and what is left to do is not done. -/
theorem exists_refusal_execute (h : ¬ statement.Scalar) (next : Outcome → Action σ α) (db : σ) :
    ∃ refusal, (s.execute statement >>= next).run db = ⟨.error (.refused refusal), db, []⟩ := by
  obtain ⟨refusal, hrefused⟩ := checkParams_eq_error h
  have hrun : (s.execute statement).run db = _ := run_execute_refused hrefused
  exact ⟨refusal, by rw [Action.run_bind_error (by rw [hrun]), hrun]⟩

theorem unrefused_fetchAll (h : statement.Scalar) : Action.Unrefused (s.fetchAll statement) :=
  .compiled (checkParams_eq_ok.mpr h) (.bind (.send _ _ _) fun _ => unrefused_accept _ _)

/-- A query that compiles binds no lists. -/
theorem unrefused_query {select : Select} (h : select.build = .ok statement) :
    Action.Unrefused (s.query select) :=
  .compiled h (.bind (unrefused_fetchAll (Select.scalar h)) fun _ => .pure _)

end Session

end BoundSql
