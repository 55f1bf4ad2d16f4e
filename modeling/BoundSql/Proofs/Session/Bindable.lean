import BoundSql.Driver.Script
import BoundSql.Proofs.Model.Operation
import BoundSql.Proofs.Statement.Compiled
import BoundSql.Schema.Creation

/-!
# What reaches the driver

A `Session.Procedure` is put together from everything that can be done with a session:
operations on models, queries, definitions of tables and statements that the caller has
written, one after the other, with failures that are caught, and inside of transactions, which
may be nested.

Whatever a procedure is made of, there is never a list among the parameters of a statement that
reaches the driver, since every statement is checked before it is sent.  A statement that was
not written by the caller is compiled from texts of the procedure, and if these have no question
marks in them, then the statement has one for each of its parameters
(`Session.Procedure.sends_bindable`).
-/

namespace BoundSql

/-! ## Statements that are known -/

namespace Session

variable {σ α : Type} {s : Session σ} {written : Statement → Prop} {texts : String → Prop}

/-- The caller has written the statement, or it is compiled from some of the texts. -/
def Known (s : Session σ) (written : Statement → Prop) (texts : String → Prop)
    (statement : Statement) : Prop :=
  written statement ∨ ∃ used, Compiled s.dialect used statement ∧ ∀ t ∈ used, texts t

/-- The statement is known, and there is no list among its parameters. -/
def Bindable (s : Session σ) (written : Statement → Prop) (texts : String → Prop)
    (statement : Statement) : Prop :=
  statement.Scalar ∧ s.Known written texts statement

/-- A statement that is compiled is known, and it is checked when it is sent. -/
theorem allows_build {b : Builder} (h : ∀ t ∈ b.trusted, texts t) :
    Allows (s.Bindable written texts) (b.build s.dialect) :=
  fun _ hbuild hscalar => ⟨hscalar, .inr ⟨b.trusted, .build hbuild, h⟩⟩

theorem bindable_control {statement : Statement}
    (h : statement ∈ [Statement.begin, .commit, .rollback]) : s.Bindable written texts statement := by
  have hscalar : ∀ statement ∈ [Statement.begin, .commit, .rollback], statement.Scalar := by decide
  exact ⟨hscalar statement h, .inr ⟨[], .control h, fun _ ht => nomatch ht⟩⟩

/-- The statements around a transaction are compiled from nothing. -/
theorem only_bindable_transaction {body : Action σ α}
    (hbody : Action.Only (Effect.Sends (s.Bindable written texts)) body) :
    Action.Only (Effect.Sends (s.Bindable written texts)) (s.transaction body) :=
  only_transaction (fun _ => trivial) (bindable_control (.head _))
    (bindable_control (.tail _ (.head _))) (bindable_control (.tail _ (.tail _ (.head _)))) hbody

/-- The definition of a table has no parameters. -/
theorem only_bindable_creation {schema : TableSchema} (h : ∀ t ∈ schema.trusted, texts t) :
    Action.Only (Effect.Sends (s.Bindable written texts))
      (TableCreation.execute ⟨some s, schema⟩) := by
  have hknown : s.Known written texts (.plain (schema.compile s.dialect)) :=
    .inr ⟨schema.trusted, .creation schema, h⟩
  have hcreate : Action.Only (Effect.Sends (s.Bindable written texts))
      (s.execute (.plain (schema.compile s.dialect)) >>= fun _ =>
        Action.log (.createdTable schema.name)) :=
    .bind (sends_execute fun hscalar => ⟨hscalar, hknown⟩) fun _ => .log trivial
  rw [TableCreation.execute]
  by_cases hoptions : schema.hasIgnoredOptions s.dialect
  · simp only [if_pos hoptions]
    exact .bind (.log trivial) fun _ => hcreate
  · simp only [if_neg hoptions]
    exact hcreate

end Session

/-! ## Operations on models -/

namespace Model

variable {σ : Type} {m : Model} {s : Session σ} {written : Statement → Prop}
  {texts : String → Prop} {filter : Filter}

theorem allows_select (htable : texts m.table) (hfilter : ∀ t ∈ filter.trusted, texts t) :
    Allows (s.Bindable written texts) (m.select.filtering fun _ => filter).build := by
  refine Session.allows_build (b := .select _) ?_
  show ∀ t ∈ [] ++ [m.table] ++ filter.trusted ++ [], texts t
  simpa [htable] using hfilter

theorem allows_searchFor (htable : texts m.table) (hkey : texts m.primaryKey) (id : Value) :
    Allows (s.Bindable written texts) (m.searchFor id).build := by
  refine Session.allows_build (b := .select _) ?_
  show ∀ t ∈ [] ++ [m.table] ++ [m.primaryKey] ++ [], texts t
  simp [htable, hkey]

theorem allows_count (htable : texts m.table) (hfilter : ∀ t ∈ filter.trusted, texts t) :
    Allows (s.Bindable written texts) (m.queryFor "COUNT(*)" filter).build :=
  fun _ hbuild hscalar =>
    ⟨hscalar, .inr ⟨_, .count hbuild, List.forall_mem_cons.mpr ⟨htable, hfilter⟩⟩⟩

theorem allows_aggregate {function column : String} (hfunction : Text.Unmarked function)
    (htable : texts m.table) (hrest : ∀ t ∈ column :: filter.trusted, texts t) :
    Allows (s.Bindable written texts)
      (m.queryFor (function ++ "(" ++ column ++ ")") filter).build :=
  fun _ hbuild hscalar => ⟨hscalar, .inr ⟨_, .aggregate hfunction hbuild,
    List.forall_mem_cons.mpr ⟨htable, hrest⟩⟩⟩

theorem allows_question (m : Model) (s : Session σ) :
    ∀ question ∈ s.dialect.conflictColumnsQuery m.table, question.Scalar →
      s.Bindable written texts question :=
  fun _ hquestion hscalar =>
    ⟨hscalar, .inr ⟨[], .question hquestion, fun _ ht => nomatch ht⟩⟩

theorem allowsChunks {batch : BatchInsert} (h : ∀ t ∈ batch.trusted, texts t) :
    AllowsChunks (s.Bindable written texts) batch s :=
  fun _ hcompile _ hchunk hscalar => ⟨hscalar, .inr ⟨_, .chunk hcompile hchunk, h⟩⟩

theorem allows_setRow {row : Row} (htable : texts m.table)
    (hrest : ∀ t ∈ row.columns ++ filter.trusted, texts t) :
    Allows (s.Bindable written texts)
      (Update.build { ({ table := m.table } : Update).setRow row with filter } s.dialect) := by
  refine Session.allows_build (b := .update _) ?_
  have hassigned : (row.entries.map fun e => Assignment.set e.1 e.2).map Assignment.column
      = row.columns := by
    rw [List.map_map]
    rfl
  show ∀ t ∈ m.table :: (row.entries.map fun e => Assignment.set e.1 e.2).map Assignment.column
    ++ filter.trusted, texts t
  rw [hassigned]
  exact List.forall_mem_cons.mpr ⟨htable, hrest⟩

end Model

namespace Operation

/-- The texts that are given with an operation. -/
def given : Operation → List String
  | find _ | conflictColumns | delete _ => []
  | count filter | deleteWhere filter => filter.trusted
  | max column filter | min column filter => column :: filter.trusted
  | sum column | increment _ column _ => [column]
  | insert row _ | replace row | update _ row => row.columns
  | insertUpdate row changes => row.columns ++ changes.columns
  | updateWhere filter row => row.columns ++ filter.trusted
  | insertBatch rows _ => rows.flatMap Row.columns
  | insertUpdateBatch rows policy => rows.flatMap Row.columns ++ policy.columns

/-- Columns that the driver reports become a part of what is sent. -/
def asks : Operation → Bool
  | insertUpdate _ _ | insertUpdateBatch _ _ => true
  | _ => false

/-- An operation sends nothing but what is compiled from its texts, those of the model, and the
columns that the driver reports. -/
theorem only_bindable {σ : Type} {m : Model} {s : Session σ} {written : Statement → Prop}
    {texts : String → Prop} (o : Operation)
    (hgiven : ∀ t ∈ m.table :: m.primaryKey :: o.given, texts t)
    (hreported : o.asks → ∀ t, m.Reported s t → texts t) :
    Action.Only (Effect.Sends (s.Bindable written texts)) (o.run m s) := by
  obtain ⟨htable, hrest⟩ := List.forall_mem_cons.mp hgiven
  obtain ⟨hkey, hown⟩ := List.forall_mem_cons.mp hrest
  have hkeyed : ∀ id, ∀ t ∈ (m.keyed id).trusted, texts t := fun id =>
    List.forall_mem_singleton.mpr hkey
  have htabled : ∀ {rest : List String}, (∀ t ∈ rest, texts t) → ∀ t ∈ m.table :: rest, texts t :=
    fun h => List.forall_mem_cons.mpr ⟨htable, h⟩
  have hread : ∀ {filter : Filter}, (∀ t ∈ filter.trusted, texts t) →
      Allows (s.Bindable written texts) (m.select.filtering fun _ => filter).build :=
    Model.allows_select htable
  have hsearch : ∀ id, Allows (s.Bindable written texts) (m.searchFor id).build :=
    Model.allows_searchFor htable hkey
  have hinsert : ∀ {insert : Insert}, (∀ t ∈ insert.trusted, texts t) →
      Allows (s.Bindable written texts) (insert.build s.dialect) := fun {insert} h =>
    Session.allows_build (b := .insert insert) h
  cases o with
  | find id => exact Model.sends_find (hsearch id)
  | count filter =>
      exact .bind (Model.sends_valueOf (Model.allows_count htable hown)) fun _ => .pure _
  | max column filter =>
      exact Model.sends_aggregate (Model.allows_aggregate (by decide) htable hown)
  | min column filter =>
      exact Model.sends_aggregate (Model.allows_aggregate (by decide) htable hown)
  | sum column => exact Model.sends_aggregate (Model.allows_aggregate (by decide) htable hown)
  | conflictColumns => exact Model.sends_conflictColumns (Model.allows_question m s)
  | insert row ignore =>
      refine Model.sends_insertOne (hinsert ?_) fun key => hsearch _
      cases ignore with
      | true => exact htabled (List.forall_mem_append.mpr ⟨hown, fun _ ht => nomatch ht⟩)
      | false => exact htabled (List.forall_mem_append.mpr ⟨hown, fun _ ht => nomatch ht⟩)
  | replace row =>
      refine Model.sends_insertOne (hinsert ?_) fun key => hsearch _
      exact htabled (List.forall_mem_append.mpr ⟨hown, fun _ ht => nomatch ht⟩)
  | insertUpdate row changes =>
      refine Model.sends_insertUpdate (Model.allows_question m s) fun conflict hconflict =>
        hinsert (htabled ?_)
      obtain ⟨hrow, hchanges⟩ := List.forall_mem_append.mp hown
      exact List.forall_mem_append.mpr ⟨hrow, List.forall_mem_append.mpr
        ⟨fun t ht => hreported rfl t (hconflict t ht), hchanges⟩⟩
  | update id row =>
      refine Model.sends_updateWhere (hread (hkeyed id)) fun _ => Model.allows_setRow htable ?_
      exact List.forall_mem_append.mpr ⟨hown, hkeyed id⟩
  | updateWhere filter row =>
      have hfilter := (List.forall_mem_append.mp hown).2
      exact Model.sends_updateWhere (hread hfilter) fun _ => Model.allows_setRow htable hown
  | increment id column amount =>
      refine Model.sends_increment (hread (hkeyed id)) (Session.allows_build (b := .update _) ?_)
      exact htabled (List.forall_mem_append.mpr ⟨hown, hkeyed id⟩)
  | delete id =>
      exact Model.sends_deleteWhere (hread (hkeyed id)) fun _ =>
        Session.allows_build (b := .delete _) (htabled (hkeyed id))
  | deleteWhere filter =>
      exact Model.sends_deleteWhere (hread hown) fun _ =>
        Session.allows_build (b := .delete _) (htabled hown)
  | insertBatch rows ignore =>
      refine Model.sends_runBatch (Model.allowsChunks ?_)
      cases ignore with
      | true => exact htabled (List.forall_mem_append.mpr ⟨hown, fun _ ht => nomatch ht⟩)
      | false => exact htabled (List.forall_mem_append.mpr ⟨hown, fun _ ht => nomatch ht⟩)
  | insertUpdateBatch rows policy =>
      refine Model.sends_insertUpdateBatch (Model.allows_question m s) fun conflict hconflict =>
        Model.allowsChunks (htabled ?_)
      obtain ⟨hrows, hpolicy⟩ := List.forall_mem_append.mp hown
      exact List.forall_mem_append.mpr ⟨hrows, List.forall_mem_append.mpr
        ⟨fun t ht => hreported rfl t (hconflict t ht), hpolicy⟩⟩

end Operation

/-! ## Procedures -/

namespace Session

variable {σ : Type}

/-- An action that is put together from all that can be done with a session.  Some statements
are written by the caller, and whatever else is compiled is compiled from some texts. -/
inductive Procedure (s : Session σ) (written : Statement → Prop) (texts : String → Prop) :
    {α : Type} → Action σ α → Prop
  | done {α : Type} (a : α) : Procedure s written texts (pure a : Action σ α)
  | fail {α : Type} (failure : Failure) :
      Procedure s written texts (Action.fail failure : Action σ α)
  | lastInsertId : Procedure s written texts s.lastInsertId
  -- the caller has written the statement
  | execute {statement : Statement} :
      written statement → Procedure s written texts (s.execute statement)
  | fetchAll {statement : Statement} :
      written statement → Procedure s written texts (s.fetchAll statement)
  | selectRaw {statement : Statement} :
      written statement → Procedure s written texts (s.selectRaw statement)
  -- the statements are compiled
  | query {select : Select} :
      (∀ t ∈ select.trusted, texts t) → Procedure s written texts (s.query select)
  | create {schema : TableSchema} : (∀ t ∈ schema.trusted, texts t) →
      Procedure s written texts (TableCreation.execute ⟨some s, schema⟩)
  | detached (schema : TableSchema) :
      Procedure s written texts (TableCreation.detached schema : TableCreation σ).execute
  | operate {m : Model} {o : Operation} : (∀ t ∈ m.table :: m.primaryKey :: o.given, texts t) →
      (o.asks → ∀ t, m.Reported s t → texts t) → Procedure s written texts (o.run m s)
  -- one after the other, and whatever becomes of them
  | bind {α β : Type} {x : Action σ α} {next : α → Action σ β} : Procedure s written texts x →
      (∀ a, Procedure s written texts (next a)) → Procedure s written texts (x >>= next)
  | attempt {α : Type} {x : Action σ α} :
      Procedure s written texts x → Procedure s written texts x.attempt
  | transaction {α : Type} {body : Action σ α} :
      Procedure s written texts body → Procedure s written texts (s.transaction body)

namespace Procedure

variable {s : Session σ} {written : Statement → Prop} {texts : String → Prop}

/-- What the parts of a procedure send is all that it sends. -/
theorem only_bindable {α : Type} {x : Action σ α} (h : s.Procedure written texts x) :
    Action.Only (Effect.Sends (s.Bindable written texts)) x := by
  induction h with
  | done a => exact .pure a
  | fail failure => exact .fail failure
  | lastInsertId => exact .view _
  | execute hwritten => exact sends_execute fun hscalar => ⟨hscalar, .inl hwritten⟩
  | fetchAll hwritten => exact sends_fetchAll fun hscalar => ⟨hscalar, .inl hwritten⟩
  | selectRaw hwritten =>
      exact .bind (sends_fetchAll fun hscalar => ⟨hscalar, .inl hwritten⟩) fun _ => .pure _
  | query htexts => exact sends_query (allows_build (b := .select _) htexts)
  | create htexts => exact only_bindable_creation htexts
  | detached schema => exact .fail _
  | @operate m o hgiven hreported => exact o.only_bindable hgiven hreported
  | bind _ _ ihx ihnext => exact .bind ihx ihnext
  | attempt _ ih => exact .attempt ih
  | transaction _ ih => exact only_bindable_transaction ih

/-- Everything that reaches the driver can be bound.  Whatever the database answers, no statement
of a procedure has a list among its parameters, and a statement that the caller has not written
is compiled from texts of the procedure.  A statement that is compiled from texts without question
marks has as many placeholders as parameters, even if the caller has written it too. -/
theorem sends_bindable (s : Session σ) (written : Statement → Prop) (texts : String → Prop)
    (α : Type) (x : Action σ α) (h : s.Procedure written texts x) (db : σ) :
    ∀ call ∈ (x.run db).calls,
      (∀ v ∈ call.statement.params, v.isScalar)
        ∧ (written call.statement
          ∨ ∃ used, Compiled s.dialect used call.statement ∧ ∀ t ∈ used, texts t)
        ∧ ∀ used, Compiled s.dialect used call.statement → (∀ t ∈ used, Text.Unmarked t) →
          call.statement.sql.toList.count '?' = call.statement.params.length := by
  intro call hcall
  obtain ⟨hscalar, hknown⟩ := h.only_bindable.calls db call hcall
  exact ⟨hscalar, hknown, fun _ hcompiled => hcompiled.count_eq⟩

/-- A table whose rows are watched. -/
def stock : Model := { table := "stock", observer := some ⟨"audit", .callback⟩ }

/-- Rows that have a value get another one. -/
def restock : Operation :=
  .updateWhere (Filter.empty.whereIn "n" [.int 0, .int 1]) (.ofPairs [("n", .int 9)])

/-- What the caller has written has a question mark that is no placeholder. -/
def question : Statement := .plain "DELETE FROM log WHERE a = '?'"

/-- A transaction with another one inside. -/
def nested : Action Script Outcome :=
  scripted.transaction (restock.run stock scripted >>= fun _ =>
    scripted.transaction (scripted.execute question))

/-- Each statement that is compiled has its parameters. -/
theorem sends_bindable_nested :
    scripted.Procedure (· = question) Text.Unmarked nested
      ∧ (nested.run {}).calls.map (·.statement.sql)
        = ["BEGIN", "SELECT * FROM stock WHERE n IN (?, ?)",
          "UPDATE \"stock\" SET \"n\" = ? WHERE n IN (?, ?)",
          "BEGIN", "DELETE FROM log WHERE a = '?'", "COMMIT", "COMMIT"]
      ∧ ∀ call ∈ (nested.run {}).calls, call.statement ≠ question →
          call.statement.sql.toList.count '?' = call.statement.params.length := by
  have hupdate : scripted.Procedure (· = question) Text.Unmarked (restock.run stock scripted) :=
    .operate (by decide +kernel) fun hasks => nomatch hasks
  have hprocedure : scripted.Procedure (· = question) Text.Unmarked nested :=
    .transaction (.bind hupdate fun _ => .transaction (.execute rfl))
  refine ⟨hprocedure, by rfl, fun call hcall hother => ?_⟩
  obtain ⟨_, hknown, hcount⟩ :=
    sends_bindable scripted (· = question) Text.Unmarked Outcome nested hprocedure {} call hcall
  obtain ⟨used, hcompiled, hused⟩ := hknown.resolve_left hother
  exact hcount used hcompiled hused

end Procedure

end Session

end BoundSql
