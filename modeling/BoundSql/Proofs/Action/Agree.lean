import BoundSql.Proofs.Statement.Scalar

/-!
# Runs that agree

Two states of a database are *alike* (`Driver.Alike`) if no calls tell them apart: whatever is
sent from then on, the driver gives the same answers in both.  Some calls are *quiet*
(`Driver.Quiet`) if the queries among them are answered, and leave states that are alike those
that they find.  Nothing is said about queries that are not sent.

An action *agrees* with another one (`Action.Agree`) if it does so whenever its calls are quiet:
from states that are alike both end with the same result, send the same statements for their
outcome, and leave states that are alike.  An action is *unnoticed* (`Action.Unnoticed`) if it
does none of this when its calls are quiet: it ends with a result, sends nothing for its outcome,
and leaves a state that is alike the one that it found.  In front of actions that agree, unnoticed
actions make no difference (`Action.Agree.behind_left`).

The calls of an action are quiet if those of its parts are, each from the state that the part
finds.  So both relations also say that the state which is left comes of the calls.
-/

namespace BoundSql

/-! ## Drivers -/

namespace Driver

variable {σ : Type} {driver : Driver σ} {a b c : σ}

/-- The state behind a call, whatever the answer. -/
def next (driver : Driver σ) (db : σ) (call : Call) : σ :=
  match call.kind with
  | .execute => (driver.execute call.statement db).2
  | .fetchAll => (driver.fetchAll call.statement db).2

/-- The state behind some calls, whatever the answers. -/
def behind (driver : Driver σ) (db : σ) (calls : List Call) : σ := calls.foldl driver.next db

/-- In both states the driver gives the same answers. -/
structure SameAnswers (driver : Driver σ) (a b : σ) : Prop where
  execute (statement : Statement) :
    (driver.execute statement a).1 = (driver.execute statement b).1
  fetchAll (statement : Statement) :
    (driver.fetchAll statement a).1 = (driver.fetchAll statement b).1
  lastInsertId : driver.lastInsertId a = driver.lastInsertId b

/-- No calls tell the states apart. -/
def Alike (driver : Driver σ) (a b : σ) : Prop :=
  ∀ calls, driver.SameAnswers (driver.behind a calls) (driver.behind b calls)

theorem Alike.refl (driver : Driver σ) (a : σ) : driver.Alike a a :=
  fun _ => ⟨fun _ => rfl, fun _ => rfl, rfl⟩

theorem Alike.symm (h : driver.Alike a b) : driver.Alike b a := fun calls =>
  ⟨fun statement => ((h calls).execute statement).symm,
    fun statement => ((h calls).fetchAll statement).symm, (h calls).lastInsertId.symm⟩

theorem Alike.trans (h : driver.Alike a b) (h' : driver.Alike b c) : driver.Alike a c :=
  fun calls =>
    ⟨fun statement => ((h calls).execute statement).trans ((h' calls).execute statement),
      fun statement => ((h calls).fetchAll statement).trans ((h' calls).fetchAll statement),
      (h calls).lastInsertId.trans (h' calls).lastInsertId⟩

theorem Alike.sameAnswers (h : driver.Alike a b) : driver.SameAnswers a b := h []

theorem Alike.next (h : driver.Alike a b) (call : Call) :
    driver.Alike (driver.next a call) (driver.next b call) :=
  fun calls => h (call :: calls)

theorem behind_append (driver : Driver σ) (a : σ) (calls more : List Call) :
    driver.behind a (calls ++ more) = driver.behind (driver.behind a calls) more :=
  List.foldl_append

/-- A query is answered, and afterwards no one can tell that it was sent. -/
def QuietCall (driver : Driver σ) (db : σ) (call : Call) : Prop :=
  call.kind = .fetchAll → (∃ rows, (driver.fetchAll call.statement db).1 = .ok rows)
    ∧ driver.Alike db (driver.next db call)

/-- So it is with all queries among the calls. -/
inductive Quiet (driver : Driver σ) : σ → List Call → Prop
  | nil {db : σ} : Quiet driver db []
  | cons {db : σ} {call : Call} {calls : List Call} :
      driver.QuietCall db call → Quiet driver (driver.next db call) calls →
      Quiet driver db (call :: calls)

theorem quiet_cons_iff {call : Call} {calls : List Call} :
    driver.Quiet a (call :: calls)
      ↔ driver.QuietCall a call ∧ driver.Quiet (driver.next a call) calls := by
  constructor
  · intro h
    cases h with
    | cons hcall hcalls => exact ⟨hcall, hcalls⟩
  · rintro ⟨hcall, hcalls⟩
    exact .cons hcall hcalls

/-- Calls that stand behind others start in the state that these leave. -/
theorem quiet_append_iff {calls more : List Call} :
    driver.Quiet a (calls ++ more)
      ↔ driver.Quiet a calls ∧ driver.Quiet (driver.behind a calls) more := by
  induction calls generalizing a with
  | nil => exact (and_iff_right .nil).symm
  | cons call calls ih =>
    rw [List.cons_append, quiet_cons_iff, quiet_cons_iff, ih, and_assoc]
    rfl

/-- The queries among the calls are answered. -/
def answers (driver : Driver σ) : σ → List Call → Bool
  | _, [] => true
  | db, call :: calls =>
      (call.kind = .execute || (driver.fetchAll call.statement db).1.isOk)
        && driver.answers (driver.next db call) calls

theorem exists_ok_iff_isOk {ε α : Type} {x : Except ε α} : (∃ a, x = .ok a) ↔ x.isOk := by
  cases x with
  | ok a => exact iff_of_true ⟨a, rfl⟩ rfl
  | error e => exact iff_of_false nofun Bool.false_ne_true

/-- Where queries leave the states as they are, calls are quiet if the queries are answered. -/
theorem quiet_iff_answers {calls : List Call}
    (h : ∀ call ∈ calls, call.kind = .fetchAll → ∀ db, driver.next db call = db) :
    driver.Quiet a calls ↔ driver.answers a calls := by
  induction calls generalizing a with
  | nil => exact iff_of_true .nil rfl
  | cons call calls ih =>
    rw [quiet_cons_iff, QuietCall, answers, Bool.and_eq_true, Bool.or_eq_true,
      ih fun call' hmem => h call' (List.mem_cons_of_mem _ hmem), exists_ok_iff_isOk]
    refine and_congr_left' ?_
    cases hkind : call.kind with
    | execute => simp
    | fetchAll =>
      rw [h call List.mem_cons_self hkind]
      simp [Alike.refl]

end Driver

/-! ## Actions that agree -/

/-- Two endings that cannot be told apart by what was written.  The first one is that of an
action which was done in the state `db`. -/
structure Ending.Agree {σ α : Type} (driver : Driver σ) (db : σ) (e e' : Ending σ α) : Prop where
  result : e.result = e'.result
  executed : e.executed = e'.executed
  overflows : e.overflows = e'.overflows
  alike : driver.Alike e.state e'.state
  state : e.state = driver.behind db e.calls

/-- The ending of an action that only read in the state `db`, and has a result. -/
structure Ending.Unnoticed {σ α : Type} (driver : Driver σ) (db : σ) (e : Ending σ α) : Prop where
  result : ∃ a, e.result = .ok a
  executed : e.executed = []
  overflows : e.overflows = false
  alike : driver.Alike db e.state
  state : e.state = driver.behind db e.calls

section

variable {σ α β : Type} {driver : Driver σ} {db : σ} {first first' : Ending σ α}
  {second second' : Ending σ β}

/-- The state behind two actions comes of the calls of both. -/
theorem Ending.state_after (h : first.state = driver.behind db first.calls)
    (h' : second.state = driver.behind first.state second.calls) :
    (second.after first.effects).state = driver.behind db (second.after first.effects).calls := by
  rw [Ending.calls_after, driver.behind_append]
  exact h'.trans (congrArg (driver.behind · second.calls) h)

theorem Ending.Agree.after (h : first.Agree driver db first')
    (h' : second.Agree driver first.state second') :
    (second.after first.effects).Agree driver db (second'.after first'.effects) := by
  have hexecuted : first.effects.filterMap Effect.executed?
      = first'.effects.filterMap Effect.executed? := h.executed
  have hoverflows : first.effects.any Effect.isOverflow = first'.effects.any Effect.isOverflow :=
    h.overflows
  refine ⟨h'.result, ?_, ?_, h'.alike, Ending.state_after h.state h'.state⟩
  · rw [Ending.executed_after, Ending.executed_after, hexecuted, h'.executed]
  · rw [Ending.overflows_after, Ending.overflows_after, hoverflows, h'.overflows]

theorem Ending.Unnoticed.after (h : first.Unnoticed driver db)
    (h' : second.Unnoticed driver first.state) :
    (second.after first.effects).Unnoticed driver db := by
  have hexecuted : first.effects.filterMap Effect.executed? = [] := h.executed
  have hoverflows : first.effects.any Effect.isOverflow = false := h.overflows
  refine ⟨h'.result, ?_, ?_, h.alike.trans h'.alike, Ending.state_after h.state h'.state⟩
  · rw [Ending.executed_after, hexecuted, List.nil_append, h'.executed]
  · rw [Ending.overflows_after, hoverflows, Bool.false_or, h'.overflows]

/-- What was unnoticed makes no difference in front of what agrees. -/
theorem Ending.Agree.behind (h : first.Unnoticed driver db)
    (h' : second.Agree driver first.state second') :
    (second.after first.effects).Agree driver db second' := by
  have hexecuted : first.effects.filterMap Effect.executed? = [] := h.executed
  have hoverflows : first.effects.any Effect.isOverflow = false := h.overflows
  refine ⟨h'.result, ?_, ?_, h'.alike, Ending.state_after h.state h'.state⟩
  · rw [Ending.executed_after, hexecuted, List.nil_append, h'.executed]
  · rw [Ending.overflows_after, hoverflows, Bool.false_or, h'.overflows]

end

namespace Action

variable {σ α β : Type} {driver : Driver σ}

/-- From states that are alike the actions end alike, if the calls of the first are quiet. -/
def Agree (driver : Driver σ) (x y : Action σ α) : Prop :=
  ∀ db db', driver.Alike db db' → driver.Quiet db (x.run db).calls →
    (x.run db).Agree driver db (y.run db')

/-- The action only reads, and has a result, if its calls are quiet. -/
def Unnoticed (driver : Driver σ) (x : Action σ α) : Prop :=
  ∀ db, driver.Quiet db (x.run db).calls → (x.run db).Unnoticed driver db

section

variable {x : Action σ α} {next : α → Action σ β} {db : σ}

/-- The calls of the first action are quiet if those of both are. -/
theorem quiet_first (h : driver.Quiet db ((x >>= next).run db).calls) :
    driver.Quiet db (x.run db).calls := by
  cases hresult : (x.run db).result with
  | error failure =>
      rw [run_bind_error hresult] at h
      exact h
  | ok a =>
      rw [run_bind_ok hresult, Ending.calls_after] at h
      exact (Driver.quiet_append_iff.mp h).1

/-- So are those of the second one, in the state that the first leaves. -/
theorem quiet_second {a : α} (hresult : (x.run db).result = .ok a)
    (hstate : (x.run db).state = driver.behind db (x.run db).calls)
    (h : driver.Quiet db ((x >>= next).run db).calls) :
    driver.Quiet (x.run db).state ((next a).run (x.run db).state).calls := by
  rw [run_bind_ok hresult, Ending.calls_after] at h
  have hsecond := (Driver.quiet_append_iff.mp h).2
  exact hstate ▸ hsecond

end

namespace Unnoticed

theorem pure (a : α) : Unnoticed driver (pure a) :=
  fun _ _ => ⟨⟨a, rfl⟩, rfl, rfl, .refl driver _, rfl⟩

theorem emit {effect : Effect} (hcall : effect.call? = none)
    (hoverflow : effect.isOverflow = false) : Unnoticed driver (emit effect) := by
  intro db _
  cases effect with
  | sent call => cases hcall
  | reported observer event => exact ⟨⟨(), rfl⟩, rfl, rfl, .refl driver db, rfl⟩
  | logged record => exact ⟨⟨(), rfl⟩, rfl, rfl, .refl driver db, rfl⟩
  | overflowed => cases hoverflow

theorem bind {x : Action σ α} {next : α → Action σ β} (hx : Unnoticed driver x)
    (hnext : ∀ a, Unnoticed driver (next a)) : Unnoticed driver (x >>= next) := by
  intro db hquiet
  have hfirst := hx db (quiet_first hquiet)
  obtain ⟨a, ha⟩ := hfirst.result
  rw [run_bind_ok ha]
  exact hfirst.after (hnext a _ (quiet_second ha hfirst.state hquiet))

/-- What compiles is as good as what comes behind it. -/
theorem compiled {x : Except Refusal α} {a : α} {next : α → Action σ β} (hx : x = .ok a)
    (hnext : Unnoticed driver (next a)) : Unnoticed driver (ofCompiled x >>= next) := by
  cases hx
  exact hnext

theorem each {f : α → Action σ Unit} (h : ∀ a, Unnoticed driver (f a)) :
    ∀ as : List α, Unnoticed driver (each f as)
  | [] => pure ()
  | a :: as => bind (h a) fun _ => each h as

end Unnoticed

namespace Agree

theorem pure (a : α) : Agree driver (pure a) (pure a) :=
  fun _ _ halike _ => ⟨rfl, rfl, rfl, halike, rfl⟩

theorem fail (failure : Failure) : Agree driver (fail failure : Action σ α) (Action.fail failure) :=
  fun _ _ halike _ => ⟨rfl, rfl, rfl, halike, rfl⟩

theorem bind {x y : Action σ α} {next next' : α → Action σ β} (h : Agree driver x y)
    (hnext : ∀ a, Agree driver (next a) (next' a)) : Agree driver (x >>= next) (y >>= next') := by
  intro db db' halike hquiet
  have hfirst := h db db' halike (quiet_first hquiet)
  cases hresult : (x.run db).result with
  | error failure =>
      rw [run_bind_error hresult, run_bind_error (hfirst.result ▸ hresult)]
      exact ⟨rfl, hfirst.executed, hfirst.overflows, hfirst.alike, hfirst.state⟩
  | ok a =>
      rw [run_bind_ok hresult, run_bind_ok (hfirst.result ▸ hresult)]
      exact hfirst.after (hnext a _ _ hfirst.alike (quiet_second hresult hfirst.state hquiet))

/-- Behind a compilation only its result matters. -/
theorem compiled {x : Except Refusal α} {next next' : α → Action σ β}
    (hnext : ∀ a, x = .ok a → Agree driver (next a) (next' a)) :
    Agree driver (Action.ofCompiled x >>= next) (Action.ofCompiled x >>= next') := by
  cases x with
  | error refusal => exact fail _
  | ok a => exact hnext a rfl

/-- What is unnoticed may be done in front of the first one. -/
theorem behind_left {z : Action σ β} {next : β → Action σ α} {y : Action σ α}
    (hz : Unnoticed driver z) (hnext : ∀ b, Agree driver (next b) y) :
    Agree driver (z >>= next) y := by
  intro db db' halike hquiet
  have hfirst := hz db (quiet_first hquiet)
  obtain ⟨b, hb⟩ := hfirst.result
  rw [run_bind_ok hb]
  exact .behind hfirst (hnext b _ db' (hfirst.alike.symm.trans halike)
    (quiet_second hb hfirst.state hquiet))

theorem log (record : LogRecord) : Agree driver (log record) (Action.log record) :=
  fun _ _ halike _ => ⟨rfl, rfl, rfl, halike, rfl⟩

theorem add (a b : UInt64) : Agree driver (add a b) (Action.add a b) := by
  intro db db' halike _
  rw [run_add, run_add]
  refine ⟨rfl, rfl, rfl, halike, ?_⟩
  rw [Ending.calls, filterMap_overflow rfl]
  rfl

theorem attempt {x y : Action σ α} (h : Agree driver x y) :
    Agree driver x.attempt y.attempt := by
  intro db db' halike hquiet
  have hagree := h db db' halike hquiet
  exact ⟨congrArg Except.ok hagree.result, hagree.executed, hagree.overflows, hagree.alike,
    hagree.state⟩

end Agree

end Action

/-! ## Sessions -/

namespace Session

variable {σ : Type} {s : Session σ} {statement : Statement}

theorem agree_lastInsertId (s : Session σ) :
    Action.Agree s.driver s.lastInsertId s.lastInsertId := by
  intro db db' halike _
  exact ⟨congrArg Except.ok halike.sameAnswers.lastInsertId, rfl, rfl, halike, rfl⟩

theorem agree_accept {α : Type} (record : α → LogRecord) (answer : Except DriverFailure α) :
    Action.Agree s.driver (accept statement record answer) (accept statement record answer) := by
  cases answer with
  | ok a => exact .bind (.log _) fun _ => .pure a
  | error cause => exact .bind (.log _) fun _ => .fail _

theorem agree_execute (s : Session σ) (statement : Statement) :
    Action.Agree s.driver (s.execute statement) (s.execute statement) := by
  refine .compiled fun _ _ => .bind ?_ fun answer => agree_accept _ answer
  intro db db' halike _
  exact ⟨congrArg Except.ok (halike.sameAnswers.execute statement), rfl, rfl,
    halike.next ⟨.execute, statement⟩, rfl⟩

theorem agree_fetchAll (s : Session σ) (statement : Statement) :
    Action.Agree s.driver (s.fetchAll statement) (s.fetchAll statement) := by
  refine .compiled fun _ _ => .bind ?_ fun answer => agree_accept _ answer
  intro db db' halike _
  exact ⟨congrArg Except.ok (halike.sameAnswers.fetchAll statement), rfl, rfl,
    halike.next ⟨.fetchAll, statement⟩, rfl⟩

theorem agree_query (s : Session σ) (select : Select) :
    Action.Agree s.driver (s.query select) (s.query select) :=
  .compiled fun statement _ => .bind (agree_fetchAll s statement) fun _ => .pure _

/-- A query is unnoticed if it is sent. -/
theorem unnoticed_fetchAll (h : statement.Scalar) :
    Action.Unnoticed s.driver (s.fetchAll statement) := by
  intro db hquiet
  cases hfetch : s.driver.fetchAll statement db with
  | mk answer db' =>
      cases answer with
      | error cause =>
          rw [run_fetchAll_error h hfetch] at hquiet
          obtain ⟨⟨rows, hrows⟩, _⟩ := (Driver.quiet_cons_iff.mp hquiet).1 rfl
          rw [hfetch] at hrows
          cases hrows
      | ok rows =>
          rw [run_fetchAll_ok h hfetch] at hquiet ⊢
          have hnext : s.driver.next db ⟨.fetchAll, statement⟩ = db' := congrArg Prod.snd hfetch
          obtain ⟨_, halike⟩ := (Driver.quiet_cons_iff.mp hquiet).1 rfl
          exact ⟨⟨rows, rfl⟩, rfl, rfl, hnext ▸ halike, hnext.symm⟩

/-- A query that compiles binds no lists. -/
theorem unnoticed_query {select : Select} (h : select.build = .ok statement) :
    Action.Unnoticed s.driver (s.query select) :=
  .compiled h (.bind (unnoticed_fetchAll (Select.scalar h)) fun _ => .pure _)

end Session

end BoundSql
