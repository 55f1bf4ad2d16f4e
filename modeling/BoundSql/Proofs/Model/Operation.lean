import BoundSql.Driver.Script
import BoundSql.Proofs.Model.Sending
import BoundSql.Proofs.Statement.Conditional

/-!
# Operations on models

An `Operation` is one of the things that a model does with a session.  A *routine*
(`Session.Routine`) is an action that is put together from operations: one after the
other, whatever is made of the results, inside of transactions, and with failures that are
caught.  It is a routine for some *targets* if the operations that change rows do so to
rows that a target selects.

An operation sends a statement that changes rows only as a conditional write of its target.
Since the parts of a routine do, `Session.Routine.conditional_writes` says the same of
every run of a routine.
-/

namespace BoundSql

/-! ## Operations -/

/-- Something that a model does with a session. -/
inductive Operation where
  -- rows are read
  | find (id : Value)
  | count (filter : Filter)
  | max (column : String) (filter : Filter)
  | min (column : String) (filter : Filter)
  | sum (column : String)
  | conflictColumns
  -- one row is inserted
  | insert (row : Row) (ignore : Bool)
  | replace (row : Row)
  | insertUpdate (row update : Row)
  -- rows that are there are changed
  | update (id : Value) (row : Row)
  | updateWhere (filter : Filter) (row : Row)
  | increment (id : Value) (column : String) (amount : Int64)
  | delete (id : Value)
  | deleteWhere (filter : Filter)
  -- many rows are inserted
  | insertBatch (rows : List Row) (ignore : Bool)
  | insertUpdateBatch (rows : List Row) (policy : UpsertPolicy)

namespace Operation

variable {σ : Type}

/-- What an operation results in. -/
def Result : Operation → Type
  | find _ => Option Row
  | count _ => Int64
  | max _ _ | min _ _ | sum _ => Option Value
  | conflictColumns => List String
  | insert _ _ | replace _ => Option Int64
  | _ => UInt64

/-- Does the operation. -/
def run (m : Model) (s : Session σ) : (o : Operation) → Action σ o.Result
  | find id => m.find s id
  | count filter => m.count s filter
  | max column filter => m.max s column filter
  | min column filter => m.min s column filter
  | sum column => m.sum s column
  | conflictColumns => m.conflictColumns s
  | insert row ignore => m.insert s row ignore
  | replace row => m.replace s row
  | insertUpdate row changes => m.insertUpdate s row changes
  | update id row => m.update s id row
  | updateWhere filter row => m.updateWhere s filter row
  | increment id column amount => m.increment s id column amount
  | delete id => m.delete s id
  | deleteWhere filter => m.deleteWhere s filter
  | insertBatch rows ignore => m.insertBatch s rows ignore
  | insertUpdateBatch rows policy => m.insertUpdateBatch s rows policy

/-- The filter of an operation that changes rows. -/
def target? (m : Model) : Operation → Option Filter
  | update id _ | increment id _ _ | delete id => some (m.keyed id)
  | updateWhere filter _ | deleteWhere filter => some filter
  | _ => none

end Operation

/-! ## Routines -/

namespace Session

variable {σ α : Type}

/-- An action that is put together from operations on models.  Rows are changed only where
a target selects them. -/
inductive Routine (s : Session σ) (targets : Model → Filter → Prop) :
    {α : Type} → Action σ α → Prop
  | done {α : Type} (a : α) : Routine s targets (pure a : Action σ α)
  | fail {α : Type} (failure : Failure) : Routine s targets (Action.fail failure : Action σ α)
  | query (select : Select) : Routine s targets (s.query select)
  | operate (m : Model) (o : Operation) :
      (∀ filter, o.target? m = some filter → targets m filter) → Routine s targets (o.run m s)
  | bind {α β : Type} {x : Action σ α} {next : α → Action σ β} :
      Routine s targets x → (∀ a, Routine s targets (next a)) → Routine s targets (x >>= next)
  | attempt {α : Type} {x : Action σ α} : Routine s targets x → Routine s targets x.attempt
  | transaction {α : Type} {body : Action σ α} :
      Routine s targets body → Routine s targets (s.transaction body)

/-- A statement is sent only if it changes no rows, or is a conditional write of rows that
a target selects. -/
def Spares (s : Session σ) (targets : Model → Filter → Prop) : Action σ α → Prop :=
  Action.Only (Effect.Sends fun statement => statement.ChangesRows →
    ∃ m filter, targets m filter ∧ ConditionalWrite s.dialect m.table filter statement)

end Session

/-! ## Statements that change no rows -/

section

variable {σ : Type} {P : Statement → Prop}

theorem Select.allows_idle (select : Select) :
    Allows (fun statement => statement.ChangesRows → P statement) select.build :=
  fun _ hbuild _ hchanges => absurd hchanges (not_changesRows hbuild)

theorem Insert.allows_idle (insert : Insert) (d : Dialect) :
    Allows (fun statement => statement.ChangesRows → P statement) (insert.build d) :=
  fun _ hbuild _ hchanges => absurd hchanges (not_changesRows hbuild)

theorem Model.allowsChunks_idle (batch : BatchInsert) (s : Session σ) :
    AllowsChunks (fun statement => statement.ChangesRows → P statement) batch s :=
  fun _ hcompile _ hchunk _ hchanges =>
    absurd hchanges (BatchInsert.not_changesRows hcompile hchunk)

theorem Dialect.question_idle (d : Dialect) (table : String) :
    ∀ question ∈ d.conflictColumnsQuery table, question.Scalar → question.ChangesRows →
      P question :=
  fun _ hquestion _ hchanges => absurd hchanges (not_changesRows hquestion)

end

/-! ## Writing without predicates -/

namespace Model

variable {σ : Type} {m : Model} {s : Session σ} {filter : Filter}

/-- An update or a delete without predicates does nothing but check the model. -/
theorem run_without_predicates (m : Model) (s : Session σ) (row : Row) (db : σ)
    (hempty : filter.isEmpty) : ∀ x ∈ [m.updateWhere s filter row, m.deleteWhere s filter],
      ∃ records : List LogRecord,
        x.run db = ⟨(m.check.map fun _ => 0).mapError .refused, db, records.map Effect.logged⟩ := by
  intro x hx
  have hcases : x = m.updateWhere s filter row ∨ x = m.deleteWhere s filter := by
    simpa using hx
  rcases hcases with rfl | rfl
  · rw [updateWhere]
    cases m.check with
    | error refusal => exact ⟨[], rfl⟩
    | ok _ =>
        rw [Action.run_ofCompiled_ok_bind, if_pos hempty]
        exact ⟨[.skippedUpdate m.table], rfl⟩
  · rw [deleteWhere]
    cases m.check with
    | error refusal => exact ⟨[], rfl⟩
    | ok _ =>
        rw [Action.run_ofCompiled_ok_bind, if_pos hempty]
        exact ⟨[.skippedDelete m.table], rfl⟩

end Model

/-! ## Runs -/

/-- An operation changes rows only where its target selects them. -/
theorem Operation.spares {σ : Type} {s : Session σ} {targets : Model → Filter → Prop} {m : Model}
    (o : Operation) (htarget : ∀ filter, o.target? m = some filter → targets m filter) :
    s.Spares targets (o.run m s) := by
  have hquestion := s.dialect.question_idle (P := fun statement =>
    ∃ m filter, targets m filter ∧ ConditionalWrite s.dialect m.table filter statement) m.table
  cases o with
  | find id => exact Model.sends_find (Select.allows_idle _)
  | count filter => exact .bind (Model.sends_valueOf (Select.allows_idle _)) fun _ => .pure _
  | max column filter => exact Model.sends_aggregate (Select.allows_idle _)
  | min column filter => exact Model.sends_aggregate (Select.allows_idle _)
  | sum column => exact Model.sends_aggregate (Select.allows_idle _)
  | conflictColumns => exact Model.sends_conflictColumns hquestion
  | insert row ignore =>
      exact Model.sends_insertOne (Insert.allows_idle _ _) fun _ => Select.allows_idle _
  | replace row =>
      exact Model.sends_insertOne (Insert.allows_idle _ _) fun _ => Select.allows_idle _
  | insertUpdate row update =>
      exact Model.sends_insertUpdate hquestion fun _ _ => Insert.allows_idle _ _
  | update id row =>
      exact Model.sends_updateWhere (Select.allows_idle _) fun hempty _ hbuild _ _ =>
        ⟨m, _, htarget _ rfl, Update.conditionalWrite hempty hbuild⟩
  | updateWhere filter row =>
      exact Model.sends_updateWhere (Select.allows_idle _) fun hempty _ hbuild _ _ =>
        ⟨m, _, htarget _ rfl, Update.conditionalWrite hempty hbuild⟩
  | increment id column amount =>
      exact Model.sends_increment (Select.allows_idle _) fun _ hbuild _ _ =>
        ⟨m, _, htarget _ rfl, Update.conditionalWrite rfl hbuild⟩
  | delete id =>
      exact Model.sends_deleteWhere (Select.allows_idle _) fun hempty _ hbuild _ _ =>
        ⟨m, _, htarget _ rfl, Delete.conditionalWrite hempty hbuild⟩
  | deleteWhere filter =>
      exact Model.sends_deleteWhere (Select.allows_idle _) fun hempty _ hbuild _ _ =>
        ⟨m, _, htarget _ rfl, Delete.conditionalWrite hempty hbuild⟩
  | insertBatch rows ignore => exact Model.sends_runBatch (Model.allowsChunks_idle _ s)
  | insertUpdateBatch rows policy =>
      exact Model.sends_insertUpdateBatch hquestion fun _ _ => Model.allowsChunks_idle _ s

namespace Session.Routine

variable {σ α : Type} {s : Session σ} {targets : Model → Filter → Prop}

/-- What each part of a routine does at most is what the routine does at most. -/
theorem spares {x : Action σ α} (h : s.Routine targets x) : s.Spares targets x := by
  induction h with
  | done a => exact .pure a
  | fail failure => exact .fail failure
  | query select => exact Session.sends_query (Select.allows_idle select)
  | operate m o htarget => exact o.spares htarget
  | bind _ _ ihx ihnext => exact .bind ihx ihnext
  | attempt _ ih => exact .attempt ih
  | transaction _ ih =>
      exact only_transaction (fun _ => trivial)
        (fun hchanges => absurd hchanges (Statement.not_changesRows (by decide)))
        (fun hchanges => absurd hchanges (Statement.not_changesRows (by decide)))
        (fun hchanges => absurd hchanges (Statement.not_changesRows (by decide))) ih

/-- No routine writes without a condition.  Whatever the database answers, every statement
that changes rows is a conditional write of rows that a target selects.  An update or a
delete whose filter has no predicates checks the model and does nothing else. -/
theorem conditional_writes (s : Session σ) (targets : Model → Filter → Prop) :
    (∀ (α : Type) (x : Action σ α), s.Routine targets x → ∀ db, ∀ call ∈ (x.run db).calls,
        call.statement.ChangesRows → ∃ m filter, targets m filter
          ∧ ConditionalWrite s.dialect m.table filter call.statement)
      ∧ ∀ (m : Model) (filter : Filter) (row : Row), filter.isEmpty →
          ∀ x ∈ [m.updateWhere s filter row, m.deleteWhere s filter], ∀ db,
            (x.run db).result = (m.check.map fun _ => 0).mapError .refused
              ∧ (x.run db).state = db ∧ (x.run db).calls = [] ∧ (x.run db).events = [] := by
  constructor
  · intro α x h db
    exact h.spares.calls db
  · intro m filter row hempty x hx db
    obtain ⟨records, hrun⟩ := Model.run_without_predicates m s row db hempty x hx
    rw [hrun]
    exact ⟨rfl, rfl, Effect.filterMap_logged (fun _ => rfl) records,
      Effect.filterMap_logged (fun _ => rfl) records⟩

/-- A table whose rows are watched. -/
def watched : Model := { table := "t", observer := some ⟨"audit", .callback⟩ }

/-- A database with a row that can be deleted. -/
def watchedRow : Script where
  queue := [{}, { rows := [.ofPairs [("id", .int 7)]] }, { outcome := { affected := 1 } }]

/-- A watched row is deleted in a transaction. -/
def deletion : Action Script UInt64 :=
  scripted.transaction ((Operation.delete (.int 7)).run watched scripted)

/-- The row is read, and then deleted by the condition that it was read by.  Without a
condition nothing is deleted. -/
theorem conditional_writes_deletion :
    scripted.Routine (fun m filter => m = watched ∧ filter = watched.keyed (.int 7)) deletion
      ∧ (deletion.run watchedRow).calls.map (·.statement.sql)
        = ["BEGIN", "SELECT * FROM t WHERE id = ?", "DELETE FROM \"t\" WHERE id = ?", "COMMIT"]
      ∧ ConditionalWrite .sqlite "t" (watched.keyed (.int 7))
          ⟨"DELETE FROM \"t\" WHERE id = ?", [.int 7]⟩
      ∧ ((watched.deleteWhere scripted .empty).run watchedRow).result = .ok 0 := by
  have hroutine : scripted.Routine
      (fun m filter => m = watched ∧ filter = watched.keyed (.int 7)) deletion :=
    .transaction (.operate watched (.delete (.int 7)) fun _ htarget =>
      ⟨rfl, (Option.some.inj htarget).symm⟩)
  obtain ⟨hwrites, hempty⟩ := conditional_writes scripted
    fun m filter => m = watched ∧ filter = watched.keyed (.int 7)
  obtain ⟨_, _, ⟨rfl, rfl⟩, hwrite⟩ := hwrites UInt64 deletion hroutine watchedRow
    ⟨.execute, ⟨"DELETE FROM \"t\" WHERE id = ?", [.int 7]⟩⟩ (.tail _ (.tail _ (.head _)))
    (Or.inr (by decide +kernel))
  refine ⟨hroutine, by rfl, hwrite, ?_⟩
  exact (hempty watched .empty .empty rfl _ (.tail _ (.head _)) watchedRow).1

end Session.Routine

end BoundSql
