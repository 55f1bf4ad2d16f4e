import BoundSql.Proofs.Driver.Reading
import BoundSql.Proofs.Model.Operation
import BoundSql.Proofs.Model.Reading
import BoundSql.Proofs.Model.RowChange

/-!
# Models without their observers

An observed model sends queries that it would not send without its observer: for the row
that was inserted, and for the rows that are about to change.  They are never refused.  A key
is no list, and a write that compiles has a filter that does.  So if the queries of a run
succeed and leave no traces, an operation agrees with the same operation of the model without
an observer (`Operation.agree_unobserved`), and the same is true of operations one after the
other (`Session.perform_unobserved`).
-/

namespace BoundSql

namespace Model

variable {σ : Type} {m : Model} {s : Session σ} {filter : Filter}

/-- The model without its observer. -/
def unobserved (m : Model) : Model := { m with observer := none }

/-! ## Reading -/

theorem agree_find (id : Value) :
    Action.Agree s.driver (m.find s id) (m.unobserved.find s id) :=
  .compiled fun _ _ => .bind (Session.agree_query s _) fun _ => .pure _

theorem agree_valueOf (columns : String) :
    Action.Agree s.driver (m.valueOf s columns filter) (m.unobserved.valueOf s columns filter) :=
  .bind (Session.agree_query s _) fun _ => .pure _

theorem agree_aggregate (function column : String) :
    Action.Agree s.driver (m.aggregate s function column filter)
      (m.unobserved.aggregate s function column filter) :=
  .bind (agree_valueOf _) fun _ => .pure _

theorem agree_conflictColumns :
    Action.Agree s.driver (m.conflictColumns s) (m.unobserved.conflictColumns s) := by
  have htable : m.unobserved.table = m.table := rfl
  rw [conflictColumns, conflictColumns, htable]
  cases s.dialect.conflictColumnsQuery m.table with
  | none => exact .pure _
  | some statement => exact .bind (Session.agree_fetchAll s statement) fun _ => .pure _

/-! ## Reporting -/

theorem unnoticed_notify (kind : ChangeKind) (id : Value) (row : Row) :
    Action.Unnoticed s.driver (m.notify kind id row) := by
  rw [notify]
  cases m.observer with
  | none => exact .pure ()
  | some observer =>
      by_cases hclosed : observer.kind = .channel false
      · simp only [if_pos hclosed]
        exact .emit rfl rfl
      · simp only [if_neg hclosed]
        exact .emit rfl rfl

/-- A row is read back by its key, and keys can always be bound. -/
theorem unnoticed_notifyInserted (hcheck : m.check = .ok ()) (kind : ChangeKind) (key : Int64) :
    Action.Unnoticed s.driver (m.notifyInserted s kind key) := by
  have hfind : Action.Unnoticed s.driver (m.find s (.int key)) :=
    .compiled hcheck (.bind (Session.unnoticed_query (build_lookup hcheck key)) fun _ => .pure _)
  refine .bind hfind fun found => ?_
  cases found with
  | none => exact .pure _
  | some row => exact unnoticed_notify _ _ _

/-! ## Inserting -/

theorem agree_insertOne (insert : Insert) (kind : ChangeKind) :
    Action.Agree s.driver (m.insertOne s insert kind) (m.unobserved.insertOne s insert kind) := by
  refine .compiled fun _ hcheck => .compiled fun statement _ =>
    .bind (Session.agree_execute s statement) fun outcome => ?_
  by_cases haffected : outcome.affected = 0
  · simp only [if_pos haffected]
    exact .pure _
  · simp only [if_neg haffected]
    refine .bind (Session.agree_lastInsertId s) fun recent => ?_
    cases outcome.insertId.orElse fun _ => recent with
    | none => exact .pure _
    | some key =>
        have hunobserved : ¬ m.unobserved.observer.isSome := Bool.false_ne_true
        by_cases hobserver : m.observer.isSome
        · simp only [if_pos hobserver, if_neg hunobserved]
          exact .behind_left (unnoticed_notifyInserted hcheck kind key) fun _ => .pure _
        · simp only [if_neg hobserver, if_neg hunobserved]
          exact .pure _

theorem agree_insertUpdate (row update : Row) :
    Action.Agree s.driver (m.insertUpdate s row update) (m.unobserved.insertUpdate s row update) :=
  .compiled fun _ _ => .bind agree_conflictColumns fun _ => .compiled fun statement _ =>
    .bind (Session.agree_execute s statement) fun _ => .pure _

theorem agree_writeChunks (chunks : List Chunk) (affected : UInt64) :
    Action.Agree s.driver (m.writeChunks s affected chunks)
      (m.unobserved.writeChunks s affected chunks) := by
  induction chunks generalizing affected with
  | nil => exact .pure _
  | cons chunk rest ih =>
      exact .bind (Session.agree_execute s chunk.statement) fun _ =>
        .bind (.log _) fun _ => .bind (.add _ _) fun _ => ih _

theorem agree_runBatch (batch : BatchInsert) :
    Action.Agree s.driver (m.runBatch s batch) (m.unobserved.runBatch s batch) :=
  .compiled fun _ _ => .compiled fun cursor _ => .bind (agree_writeChunks cursor.chunks 0) fun _ =>
    .bind (.log _) fun _ => .pure _

theorem agree_insertUpdateBatch (rows : List Row) (policy : UpsertPolicy) :
    Action.Agree s.driver (m.insertUpdateBatch s rows policy)
      (m.unobserved.insertUpdateBatch s rows policy) :=
  .compiled fun _ _ => .bind agree_conflictColumns fun _ => agree_runBatch _

/-! ## Writing rows that are there -/

/-- It makes no difference what was read before a write. -/
theorem agree_writeRead (kind : ChangeKind) (write : Statement) (before : List Row) :
    Action.Agree s.driver (m.writeRead s kind write before)
      (m.unobserved.writeRead s kind write []) := by
  refine .bind (Session.agree_execute s write) fun outcome => ?_
  by_cases haffected : 0 < outcome.affected
  · simp only [if_pos haffected]
    exact .behind_left (.each (fun _ => unnoticed_notify _ _ _) before) fun _ => .pure _
  · simp only [if_neg haffected]
    exact .pure _

/-- The rows can be read if they can be written. -/
theorem unnoticed_preimages {write : Statement} (hcheck : m.check = .ok ())
    (h : ConditionalWrite s.dialect m.table filter write) :
    Action.Unnoticed s.driver (m.preimages s filter) := by
  rw [preimages]
  by_cases hobserver : m.observer.isSome
  · rw [if_pos hobserver]
    obtain ⟨read, hread, _⟩ := RowChange.exists_read hcheck h
    exact .bind (Session.unnoticed_query hread) fun _ => .pure _
  · rw [if_neg hobserver]
    exact .pure _

theorem agree_write {kind : ChangeKind} {compiled : Except Refusal Statement}
    (hcheck : m.check = .ok ())
    (hcompiled : ∀ write, compiled = .ok write → ConditionalWrite s.dialect m.table filter write) :
    Action.Agree s.driver (m.write s filter kind compiled)
      (m.unobserved.write s filter kind compiled) := by
  refine .compiled fun write hwrite => ?_
  exact .behind_left (unnoticed_preimages hcheck (hcompiled write hwrite)) fun before =>
    agree_writeRead kind write before

end Model

theorem RowChange.agree_unobserved {σ : Type} {s : Session σ} {m : Model} (w : RowChange) :
    Action.Agree s.driver (w.run m s) (w.run m.unobserved s) := by
  have hskipped : w.skipped m.unobserved = w.skipped m := by cases w <;> rfl
  have hfilter : w.filter m.unobserved = w.filter m := by cases w <;> rfl
  have hcompiled : w.compiled m.unobserved s.dialect = w.compiled m s.dialect := by
    cases w <;> rfl
  rw [run_eq, run_eq, hskipped, hfilter, hcompiled]
  refine .compiled fun _ hcheck => ?_
  cases hempty : (w.filter m).isEmpty with
  | true => exact .bind (.log _) fun _ => .pure _
  | false => exact Model.agree_write hcheck fun _ hwrite => conditionalWrite hempty hwrite

/-- Without an observer an operation does the same, as far as results and writes go. -/
theorem Operation.agree_unobserved {σ : Type} {s : Session σ} {m : Model} (o : Operation) :
    Action.Agree s.driver (o.run m s) (o.run m.unobserved s) := by
  cases o with
  | find id => exact Model.agree_find id
  | count filter => exact .bind (Model.agree_valueOf _) fun _ => .pure _
  | max column filter => exact Model.agree_aggregate _ _
  | min column filter => exact Model.agree_aggregate _ _
  | sum column => exact Model.agree_aggregate _ _
  | conflictColumns => exact Model.agree_conflictColumns
  | insert row ignore => exact Model.agree_insertOne _ _
  | replace row => exact Model.agree_insertOne _ _
  | insertUpdate row update => exact Model.agree_insertUpdate _ _
  | update id row => exact (RowChange.update id row).agree_unobserved
  | updateWhere filter row => exact (RowChange.updateWhere filter row).agree_unobserved
  | increment id column amount => exact (RowChange.increment id column amount).agree_unobserved
  | delete id => exact (RowChange.delete id).agree_unobserved
  | deleteWhere filter => exact (RowChange.deleteWhere filter).agree_unobserved
  | insertBatch rows ignore => exact Model.agree_runBatch _
  | insertUpdateBatch rows policy => exact Model.agree_insertUpdateBatch _ _

/-! ## Operations one after the other -/

namespace Session

variable {σ : Type} {s : Session σ}

/-- An operation that was done, and how it ended. -/
abbrev Performed : Type := (o : Operation) × Except Failure o.Result

/-- Does an operation on a model, and says how it ended. -/
def performOne (s : Session σ) (step : Model × Operation) : Action σ Performed := do
  let result ← (step.2.run step.1 s).attempt
  pure ⟨step.2, result⟩

/-- Does operations on models, one after the other.  If one fails the next is done
nevertheless. -/
def perform (s : Session σ) : List (Model × Operation) → Action σ (List Performed) :=
  Action.collect s.performOne

/-- The same operations, and no one observes the models. -/
def unobserved (steps : List (Model × Operation)) : List (Model × Operation) :=
  steps.map fun step => (step.1.unobserved, step.2)

theorem agree_perform (steps : List (Model × Operation)) :
    Action.Agree s.driver (s.perform steps) (s.perform (unobserved steps)) := by
  induction steps with
  | nil => exact .pure []
  | cons step steps ih =>
      have hstep : Action.Agree s.driver (s.performOne step)
          (s.performOne (step.1.unobserved, step.2)) :=
        .bind step.2.agree_unobserved.attempt fun _ => .pure _
      exact .bind hstep fun _ => .bind ih fun _ => .pure _

/-- There is an ending for each operation. -/
theorem result_perform (s : Session σ) (steps : List (Model × Operation)) (db : σ) :
    ∃ endings, ((s.perform steps).run db).result = .ok endings
      ∧ endings.map Sigma.fst = steps.map Prod.snd := by
  induction steps generalizing db with
  | nil => exact ⟨[], rfl, rfl⟩
  | cons step steps ih =>
      obtain ⟨endings, hendings, hoperations⟩ := ih ((s.performOne step).run db).state
      obtain ⟨ending, hending, hoperation⟩ : ∃ ending,
          ((s.performOne step).run db).result = .ok ending ∧ ending.1 = step.2 := ⟨_, rfl, rfl⟩
      refine ⟨ending :: endings, ?_, congr (congrArg List.cons hoperation) hoperations⟩
      show ((s.performOne step >>= fun ending => s.perform steps >>= fun more =>
        pure (ending :: more)).run db).result = _
      rw [Action.run_bind_ok hending, Action.run_bind_pure, Ending.map, hendings]
      rfl

/-- Observing is transparent.  If the queries that are sent succeed and leave no traces,
operations on models one after the other end in the same way whether or not the models are
observed.  The statements that are sent for their outcome are the same, and no one can tell the
databases apart that are left. -/
theorem perform_unobserved (s : Session σ) (db : σ) (steps : List (Model × Operation))
    (hquiet : s.driver.Quiet db ((s.perform steps).run db).calls) :
    ∃ endings, endings.map Sigma.fst = steps.map Prod.snd
      ∧ ((s.perform steps).run db).result = .ok endings
      ∧ ((s.perform (unobserved steps)).run db).result = .ok endings
      ∧ ((s.perform steps).run db).executed = ((s.perform (unobserved steps)).run db).executed
      ∧ ((s.perform steps).run db).overflows = ((s.perform (unobserved steps)).run db).overflows
      ∧ s.driver.Alike ((s.perform steps).run db).state
          ((s.perform (unobserved steps)).run db).state := by
  obtain ⟨endings, hresult, hoperations⟩ := result_perform s steps db
  have hagree := agree_perform (s := s) steps db db (.refl s.driver db) hquiet
  exact ⟨endings, hoperations, hresult, hagree.result.symm.trans hresult, hagree.executed,
    hagree.overflows, hagree.alike⟩

/-- A session on a database in the program. -/
def ledgerSession : Session Sqlite.Connection := ⟨Sqlite.driver, .sqlite, 100⟩

/-- Such a database, with a table that is empty. -/
def emptyLedger : Sqlite.Connection :=
  (Sqlite.driver.execute (.plain "CREATE TABLE ledger (id INTEGER PRIMARY KEY, a)")
    { database := {} }).2

/-- The table, and someone who wants to know about its rows. -/
def ledger : Model := { table := "ledger", observer := some ⟨"audit", .callback⟩ }

/-- A row is inserted, changed to something that cannot be written, and deleted. -/
def ledgerSteps : List (Model × Operation) :=
  [(ledger, .insert (.ofPairs [("a", .int 1)]) false),
    (ledger, .update (.int 1) (.ofPairs [("a", .list [])])),
    (ledger, .delete (.int 1))]

/-- What is sent for them if the table is observed.  The last query finds the row that the first
statement inserted. -/
def ledgerTexts : List (CallKind × String) :=
  [(.execute, "INSERT INTO \"ledger\" (\"a\") VALUES (?)"),
    (.fetchAll, "SELECT * FROM ledger WHERE id = ? LIMIT 1"),
    (.fetchAll, "SELECT * FROM ledger WHERE id = ?"),
    (.fetchAll, "SELECT * FROM ledger WHERE id = ?"),
    (.execute, "DELETE FROM \"ledger\" WHERE id = ?")]

/-- The table is read only if it is observed, and written in the same way. -/
theorem perform_unobserved_ledger :
    ((ledgerSession.perform ledgerSteps).run emptyLedger).calls.map
        (fun call => (call.kind, call.statement.sql)) = ledgerTexts
      ∧ ledgerSession.driver.Quiet emptyLedger
        ((ledgerSession.perform ledgerSteps).run emptyLedger).calls
      ∧ ((ledgerSession.perform (unobserved ledgerSteps)).run emptyLedger).calls.length = 2
      ∧ ((ledgerSession.perform ledgerSteps).run emptyLedger).executed.map Statement.sql
        = ["INSERT INTO \"ledger\" (\"a\") VALUES (?)", "DELETE FROM \"ledger\" WHERE id = ?"] := by
  have htexts : ((ledgerSession.perform ledgerSteps).run emptyLedger).calls.map
      (fun call => (call.kind, call.statement.sql)) = ledgerTexts := by decide +kernel
  have hselects : ∀ call ∈ ((ledgerSession.perform ledgerSteps).run emptyLedger).calls,
      call.kind = .fetchAll → Embedded.onlySelects call.statement.sql := fun call hcall =>
    have htext : ∀ e ∈ ledgerTexts, e.1 = .fetchAll → Embedded.onlySelects e.2 := by
      decide +kernel
    htext _ (htexts ▸ List.mem_map_of_mem hcall)
  have hanswers : Sqlite.driver.answers emptyLedger
      ((ledgerSession.perform ledgerSteps).run emptyLedger).calls := by decide +kernel
  have hquiet : ledgerSession.driver.Quiet emptyLedger
      ((ledgerSession.perform ledgerSteps).run emptyLedger).calls :=
    (Sqlite.quiet_iff_answers hselects).mpr hanswers
  obtain ⟨_, _, _, _, hexecuted, _⟩ :=
    perform_unobserved ledgerSession emptyLedger ledgerSteps hquiet
  refine ⟨htexts, hquiet, by decide +kernel, ?_⟩
  rw [hexecuted]
  decide +kernel

end Session

end BoundSql
