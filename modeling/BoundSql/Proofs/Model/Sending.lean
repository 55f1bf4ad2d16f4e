import BoundSql.Model
import BoundSql.Proofs.Action.Only

/-!
# What models send

Every statement that a model sends is one of a few: a query, the question for the columns of a
conflict, an insert, a chunk of a batch, or a write of rows that are there.  The lemmas of this
module go through the operations once and for all.  Whatever is to be shown of the statements
that are sent has to be shown for these, and may be shown under the assumption that there is
no list among the parameters.
-/

namespace BoundSql

variable {σ : Type} {Q : Statement → Prop}

/-- What is compiled has the property, if it can be sent at all. -/
def Allows (Q : Statement → Prop) (compiled : Except Refusal Statement) : Prop :=
  ∀ statement, compiled = .ok statement → statement.Scalar → Q statement

namespace Session

variable {s : Session σ} {statement : Statement}

/-- A statement is checked before it is sent. -/
theorem sends_execute (h : statement.Scalar → Q statement) :
    Action.Only (Effect.Sends Q) (s.execute statement) :=
  .compiled fun _ hcheck => .bind (.send (h (checkParams_eq_ok.mp hcheck))) fun _ =>
    only_accept fun _ => trivial

theorem sends_fetchAll (h : statement.Scalar → Q statement) :
    Action.Only (Effect.Sends Q) (s.fetchAll statement) :=
  .compiled fun _ hcheck => .bind (.send (h (checkParams_eq_ok.mp hcheck))) fun _ =>
    only_accept fun _ => trivial

theorem sends_query {select : Select} (h : Allows Q select.build) :
    Action.Only (Effect.Sends Q) (s.query select) :=
  .compiled fun statement hbuild => .bind (sends_fetchAll (h statement hbuild)) fun _ => .pure _

end Session

namespace Model

variable {m : Model} {s : Session σ} {filter : Filter}

/-! ## Reading and reporting -/

/-- The query for the row with a key. -/
def searchFor (m : Model) (id : Value) : Select := (m.select.filtering fun _ => m.keyed id).take 1

/-- The query for one value about the rows that a filter selects. -/
def queryFor (m : Model) (columns : String) (filter : Filter) : Select :=
  (m.select.withColumnsRaw columns).filtering fun _ => filter

theorem sends_find {id : Value} (h : Allows Q (m.searchFor id).build) :
    Action.Only (Effect.Sends Q) (m.find s id) :=
  .compiled fun _ _ => .bind (Session.sends_query h) fun _ => .pure _

theorem sends_valueOf {columns : String} (h : Allows Q (m.queryFor columns filter).build) :
    Action.Only (Effect.Sends Q) (m.valueOf s columns filter) :=
  .bind (Session.sends_query h) fun _ => .pure _

theorem sends_aggregate {function column : String}
    (h : Allows Q (m.queryFor (function ++ "(" ++ column ++ ")") filter).build) :
    Action.Only (Effect.Sends Q) (m.aggregate s function column filter) :=
  .bind (sends_valueOf h) fun _ => .pure _

theorem sends_conflictColumns
    (h : ∀ question ∈ s.dialect.conflictColumnsQuery m.table, question.Scalar → Q question) :
    Action.Only (Effect.Sends Q) (m.conflictColumns s) := by
  rw [conflictColumns]
  cases hquery : s.dialect.conflictColumnsQuery m.table with
  | none => exact .pure _
  | some question => exact .bind (Session.sends_fetchAll (h question hquery)) fun _ => .pure _

/-- A report is nothing, or an effect that is no statement. -/
theorem notify_eq (m : Model) (kind : ChangeKind) (id : Value) (row : Row) :
    (m.notify kind id row : Action σ Unit) = pure ()
      ∨ ∃ effect : Effect, effect.call? = none
        ∧ (m.notify kind id row : Action σ Unit) = Action.emit effect := by
  rw [notify]
  cases m.observer with
  | none => exact .inl rfl
  | some observer =>
      by_cases hclosed : observer.kind = .channel false
      · simp only [if_pos hclosed]
        exact .inr ⟨_, rfl, rfl⟩
      · simp only [if_neg hclosed]
        exact .inr ⟨_, rfl, rfl⟩

theorem sends_notify (kind : ChangeKind) (id : Value) (row : Row) :
    Action.Only (Effect.Sends Q) (m.notify kind id row : Action σ Unit) := by
  rcases m.notify_eq kind id row with heq | ⟨effect, hcall, heq⟩
  · rw [heq]
    exact .pure ()
  · rw [heq]
    refine .emit ?_
    cases effect with
    | sent call => cases hcall
    | reported observer event => trivial
    | logged record => trivial
    | overflowed => trivial

/-! ## Inserting -/

theorem sends_insertOne {insert : Insert} {kind : ChangeKind}
    (hinsert : Allows Q (insert.build s.dialect))
    (hsearch : ∀ key, Allows Q (m.searchFor (.int key)).build) :
    Action.Only (Effect.Sends Q) (m.insertOne s insert kind) := by
  refine .compiled fun _ _ => .compiled fun statement hbuild =>
    .bind (Session.sends_execute (hinsert statement hbuild)) fun outcome => ?_
  by_cases haffected : outcome.affected = 0
  · simp only [if_pos haffected]
    exact .pure _
  · simp only [if_neg haffected]
    refine .bind (.view _) fun recent => ?_
    cases outcome.insertId.orElse fun _ => recent with
    | none => exact .pure _
    | some key =>
        by_cases hobserver : m.observer.isSome
        · simp only [if_pos hobserver]
          refine .bind (.bind (sends_find (hsearch key)) fun found => ?_) fun _ => .pure _
          cases found with
          | none => exact .pure _
          | some row => exact sends_notify _ _ _
        · simp only [if_neg hobserver]
          exact .bind (.pure _) fun _ => .pure _

/-- The driver reports a column on which rows of the table collide. -/
def Reported (m : Model) (s : Session σ) (column : String) : Prop :=
  ∃ db columns, ((m.conflictColumns s).run db).result = .ok columns ∧ column ∈ columns

/-- What is inserted or updated depends on the columns that the driver reports. -/
theorem sends_insertUpdate {row update : Row}
    (hquestion : ∀ question ∈ s.dialect.conflictColumnsQuery m.table,
      question.Scalar → Q question)
    (hinsert : ∀ conflict, (∀ column ∈ conflict, m.Reported s column) →
      Allows Q ((({ table := m.table, row } : Insert).onConflictUpdate conflict update).build
        s.dialect)) :
    Action.Only (Effect.Sends Q) (m.insertUpdate s row update) := by
  refine .compiled fun _ _ => .bind_result (sends_conflictColumns hquestion)
    fun conflict ⟨db, hresult⟩ => .compiled fun statement hbuild => .bind ?_ fun _ => .pure _
  have hreported : ∀ column ∈ conflict, m.Reported s column :=
    fun column hcolumn => ⟨db, conflict, hresult, hcolumn⟩
  exact Session.sends_execute (hinsert conflict hreported statement hbuild)

theorem sends_writeChunks {chunks : List Chunk} {affected : UInt64}
    (h : ∀ chunk ∈ chunks, chunk.statement.Scalar → Q chunk.statement) :
    Action.Only (Effect.Sends Q) (m.writeChunks s affected chunks) := by
  induction chunks generalizing affected with
  | nil => exact .pure _
  | cons chunk rest ih =>
      refine .bind (Session.sends_execute (h chunk List.mem_cons_self)) fun outcome =>
        .bind (.log trivial) fun _ => .bind (.add trivial _ _) fun _ => ih fun chunk hchunk => ?_
      exact h chunk (List.mem_cons_of_mem _ hchunk)

/-- What the chunks of a batch write has the property, if it can be sent at all. -/
def AllowsChunks (Q : Statement → Prop) (batch : BatchInsert) (s : Session σ) : Prop :=
  ∀ cursor, batch.compile s.dialect s.maxParams = .ok cursor →
    ∀ chunk ∈ cursor.chunks, chunk.statement.Scalar → Q chunk.statement

theorem sends_runBatch {batch : BatchInsert} (h : AllowsChunks Q batch s) :
    Action.Only (Effect.Sends Q) (m.runBatch s batch) :=
  .compiled fun _ _ => .compiled fun cursor hcompile =>
    .bind (sends_writeChunks (h cursor hcompile)) fun _ => .bind (.log trivial) fun _ => .pure _

theorem sends_insertUpdateBatch {rows : List Row} {policy : UpsertPolicy}
    (hquestion : ∀ question ∈ s.dialect.conflictColumnsQuery m.table,
      question.Scalar → Q question)
    (hchunks : ∀ conflict, (∀ column ∈ conflict, m.Reported s column) →
      AllowsChunks Q ⟨m.table, rows, .upsert policy, conflict⟩ s) :
    Action.Only (Effect.Sends Q) (m.insertUpdateBatch s rows policy) := by
  refine .compiled fun _ _ => .bind_result (sends_conflictColumns hquestion)
    fun conflict ⟨db, hresult⟩ => ?_
  have hreported : ∀ column ∈ conflict, m.Reported s column :=
    fun column hcolumn => ⟨db, conflict, hresult, hcolumn⟩
  exact sends_runBatch (hchunks conflict hreported)

/-! ## Writing rows that are there -/

/-- A write sends the statement that was compiled, behind a query for the old rows. -/
theorem sends_write {kind : ChangeKind} {compiled : Except Refusal Statement}
    (hread : Allows Q (m.select.filtering fun _ => filter).build) (hwrite : Allows Q compiled) :
    Action.Only (Effect.Sends Q) (m.write s filter kind compiled) := by
  refine .compiled fun statement hstatement => .bind ?_ fun before =>
    .bind (Session.sends_execute (hwrite statement hstatement)) fun outcome => ?_
  · rw [preimages]
    by_cases hobserver : m.observer.isSome
    · rw [if_pos hobserver]
      exact .bind (Session.sends_query hread) fun _ => .pure _
    · rw [if_neg hobserver]
      exact .pure _
  · by_cases haffected : 0 < outcome.affected
    · simp only [if_pos haffected]
      exact .bind (.each fun _ _ => sends_notify _ _ _) fun _ => .pure _
    · simp only [if_neg haffected]
      exact .bind (.pure _) fun _ => .pure _

theorem sends_updateWhere {row : Row}
    (hread : Allows Q (m.select.filtering fun _ => filter).build)
    (hwrite : filter.isEmpty = false →
      Allows Q (Update.build { ({ table := m.table } : Update).setRow row with filter } s.dialect)) :
    Action.Only (Effect.Sends Q) (m.updateWhere s filter row) := by
  refine .compiled fun _ _ => ?_
  cases hempty : filter.isEmpty with
  | true => exact .bind (.log trivial) fun _ => .pure _
  | false => exact sends_write hread (hwrite hempty)

theorem sends_increment {id : Value} {column : String} {amount : Int64}
    (hread : Allows Q (m.select.filtering fun _ => m.keyed id).build)
    (hwrite : Allows Q (Update.build { ({ table := m.table } : Update).increment column
      (.int amount) with filter := m.keyed id } s.dialect)) :
    Action.Only (Effect.Sends Q) (m.increment s id column amount) :=
  .compiled fun _ _ => sends_write hread hwrite

theorem sends_deleteWhere (hread : Allows Q (m.select.filtering fun _ => filter).build)
    (hwrite : filter.isEmpty = false →
      Allows Q (Delete.build { table := m.table, filter } s.dialect)) :
    Action.Only (Effect.Sends Q) (m.deleteWhere s filter) := by
  refine .compiled fun _ _ => ?_
  cases hempty : filter.isEmpty with
  | true => exact .bind (.log trivial) fun _ => .pure _
  | false => exact sends_write hread (hwrite hempty)

end Model

end BoundSql
