import BoundSql.Driver.Script
import BoundSql.Proofs.Action.Refused
import BoundSql.Proofs.Model.Operation
import BoundSql.Proofs.Model.Reading
import BoundSql.Proofs.Model.RowChange

/-!
# Refusals behind a query

Most operations on single rows are refused before anything is sent.  There are two exceptions.
Before a row is inserted or updated, SQLite is asked for the columns of a conflict, and only
then the two rows are looked at.  And before rows of an observed model are updated they are
read, and only then a list is found among the values that they take.

`Operation.refused_behind_query_iff` says that there are no other exceptions, and that what is
sent in front of a refusal is one query at most.
-/

namespace BoundSql

namespace Insert

/-- What is wrong with the two rows of an insert or update. -/
def Malformed (row update : Row) : Prop :=
  row.isEmpty ∨ update.isEmpty ∨ ¬ ∀ v ∈ row.values ++ update.values, v.isScalar

/-- An insert is compiled to something that can be sent if nothing is wrong with its rows. -/
theorem exists_scalar_build {table : String} (htable : Text.isBlankText table = false)
    (d : Dialect) (row update : Row) (conflict : List String) :
    (∃ statement, (({ table, row } : Insert).onConflictUpdate conflict update).build d
        = .ok statement ∧ statement.Scalar) ↔ ¬ Malformed row update := by
  have hscalar : ∀ statement, (({ table, row } : Insert).onConflictUpdate conflict update).build d
      = .ok statement → (statement.Scalar ↔ ∀ v ∈ row.values ++ update.values, v.isScalar) :=
    fun statement h => Builder.scalar_iff (b := .insert _) h
  rw [Malformed, not_or, not_or, Classical.not_not]
  constructor
  · rintro ⟨statement, hbuild, hvalues⟩
    obtain ⟨f, hf, _⟩ := map_eq_ok.mp hbuild
    rw [fragment_eq, ite_error_eq_ok, ite_error_eq_ok] at hf
    obtain ⟨_, hrow, hf⟩ := hf
    obtain ⟨clause, hclause, _⟩ := bind_eq_ok.mp hf
    have hupdate : ¬ update.isEmpty ∧ _ := ite_error_eq_ok.mp hclause
    exact ⟨hrow, hupdate.1, (hscalar statement hbuild).mp hvalues⟩
  · rintro ⟨hrow, hupdate, hvalues⟩
    obtain ⟨clause, hclause⟩ : ∃ clause, conflictClause d (some (conflict, update)) = .ok clause :=
      ⟨_, if_neg hupdate⟩
    have hnamed : ¬ Text.isBlankText table := by
      rw [htable]
      exact Bool.false_ne_true
    have hfragment : (({ table, row } : Insert).onConflictUpdate conflict update).fragment d
        = .ok (.text (head "INSERT" d table row.columns) ++ .tuple row.values ++ clause) := by
      rw [fragment_eq, ite_error_eq_ok, ite_error_eq_ok]
      exact ⟨hnamed, hrow, bind_eq_ok.mpr ⟨clause, hclause, rfl⟩⟩
    have hbuild : (({ table, row } : Insert).onConflictUpdate conflict update).build d = .ok _ :=
      map_eq_ok.mpr ⟨_, hfragment, rfl⟩
    exact ⟨_, hbuild, (hscalar _ hbuild).mpr hvalues⟩

end Insert

namespace Model

variable {σ : Type} {m : Model} {s : Session σ} {filter : Filter} {db : σ}

/-! ## Refusals that come first -/

theorem refusedFirst_find (id : Value) : Action.RefusedFirst (m.find s id) :=
  .compiled fun _ _ => .bind (Session.refusedFirst_query s _) fun _ => .pure _

theorem refusedFirst_valueOf (columns : String) :
    Action.RefusedFirst (m.valueOf s columns filter) :=
  .bind (Session.refusedFirst_query s _) fun _ => .pure _

theorem refusedFirst_aggregate (function column : String) :
    Action.RefusedFirst (m.aggregate s function column filter) :=
  .bind (refusedFirst_valueOf _) fun _ => .pure _

theorem scalar_question {d : Dialect} {table : String} {question : Statement}
    (h : d.conflictColumnsQuery table = some question) : question.Scalar := by
  cases d with
  | mysql => cases h
  | sqlite =>
      cases h
      intro v hv
      cases List.mem_singleton.mp hv
      rfl

theorem unrefused_conflictColumns : Action.Unrefused (m.conflictColumns s) := by
  rw [conflictColumns]
  cases hquery : s.dialect.conflictColumnsQuery m.table with
  | none => exact .pure _
  | some question =>
      exact .bind (Session.unrefused_fetchAll (scalar_question hquery)) fun _ => .pure _

theorem unrefused_notify (kind : ChangeKind) (id : Value) (row : Row) :
    Action.Unrefused (m.notify kind id row : Action σ Unit) := by
  rcases m.notify_eq kind id row with heq | ⟨effect, _, heq⟩
  · rw [heq]
    exact .pure ()
  · rw [heq]
    exact .emit effect

theorem unrefused_notifyInserted (hcheck : m.check = .ok ()) (kind : ChangeKind) (key : Int64) :
    Action.Unrefused (m.notifyInserted s kind key) := by
  have hfind : Action.Unrefused (m.find s (.int key)) :=
    .compiled hcheck (.bind (Session.unrefused_query (build_lookup hcheck key)) fun _ => .pure _)
  refine .bind hfind fun found => ?_
  cases found with
  | none => exact .pure _
  | some row => exact unrefused_notify _ _ _

theorem refusedFirst_insertOne (insert : Insert) (kind : ChangeKind) :
    Action.RefusedFirst (m.insertOne s insert kind) := by
  refine .compiled fun _ hcheck => .compiled fun statement _ =>
    .bind (Session.refusedFirst_execute s statement) fun outcome => ?_
  by_cases haffected : outcome.affected = 0
  · simp only [if_pos haffected]
    exact .pure _
  · simp only [if_neg haffected]
    refine .bind (.view _) fun recent => ?_
    cases outcome.insertId.orElse fun _ => recent with
    | none => exact .pure _
    | some key =>
        by_cases hobserver : m.observer.isSome
        · simp only [if_pos hobserver]
          exact .bind (unrefused_notifyInserted hcheck kind key) fun _ => .pure _
        · simp only [if_neg hobserver]
          exact .pure _

/-! ## Inserting or updating -/

/-- What is left to do when the columns of a conflict are known. -/
def insertMerged (m : Model) (s : Session σ) (row update : Row) (conflict : List String) :
    Action σ UInt64 := do
  let insert := ({ table := m.table, row } : Insert).onConflictUpdate conflict update
  let statement ← Action.ofCompiled (insert.build s.dialect)
  let outcome ← s.execute statement
  pure outcome.affected

theorem refusedFirst_insertMerged (row update : Row) (conflict : List String) :
    Action.RefusedFirst (m.insertMerged s row update conflict) :=
  .compiled fun statement _ => .bind (Session.refusedFirst_execute s statement) fun _ => .pure _

/-- Two rows are refused if something is wrong with them. -/
theorem refused_insertMerged (hcheck : m.check = .ok ()) (row update : Row)
    (conflict : List String) (db : σ) :
    (∃ refusal, ((m.insertMerged s row update conflict).run db).result
        = .error (.refused refusal)) ↔ Insert.Malformed row update := by
  have hsendable := Insert.exists_scalar_build (isBlankText_table hcheck) s.dialect row update
    conflict
  constructor
  · rintro ⟨refusal, hrefused⟩
    refine Classical.byContradiction fun hwell => ?_
    obtain ⟨statement, hbuild, hscalar⟩ := hsendable.mpr hwell
    have hunrefused : Action.Unrefused (m.insertMerged s row update conflict) :=
      .compiled hbuild (.bind (Session.unrefused_execute hscalar) fun _ => .pure _)
    exact hunrefused db refusal hrefused
  · intro hmalformed
    rw [insertMerged]
    cases hbuild : (({ table := m.table, row } : Insert).onConflictUpdate conflict update).build
        s.dialect with
    | error refusal => exact ⟨refusal, rfl⟩
    | ok statement =>
        have hlist : ¬ statement.Scalar := fun hscalar =>
          hsendable.mp ⟨statement, hbuild, hscalar⟩ hmalformed
        rw [Action.run_ofCompiled_ok_bind]
        exact (Session.exists_refusal_execute hlist _ db).imp fun _ hrun =>
          congrArg Ending.result hrun

theorem run_conflictColumns {question : Statement}
    (h : s.dialect.conflictColumnsQuery m.table = some question) (db : σ) :
    (m.conflictColumns s).run db = ((s.fetchAll question).run db).map fun rows =>
      s.dialect.conflictColumns rows m.primaryKey := by
  rw [conflictColumns, h]
  exact Action.run_bind_pure _ _ db

/-- The database answers the question for the columns of a conflict. -/
def Asked (m : Model) (s : Session σ) (db : σ) (question : Statement) (rows : List Row)
    (db' : σ) : Prop :=
  s.dialect.conflictColumnsQuery m.table = some question
    ∧ s.driver.fetchAll question db = (.ok rows, db')

theorem insertUpdate_eq (m : Model) (s : Session σ) (row update : Row) :
    m.insertUpdate s row update
      = Action.ofCompiled m.check >>= fun _ => m.conflictColumns s >>= m.insertMerged s row update :=
  rfl

/-- An insert or update that is refused has sent nothing, or has asked one question. -/
theorem refused_insertUpdate {row update : Row} {refusal : Refusal}
    (h : ((m.insertUpdate s row update).run db).result = .error (.refused refusal)) :
    ((m.insertUpdate s row update).run db).effects = []
      ∨ ∃ question rows db', m.check = .ok () ∧ Insert.Malformed row update
        ∧ m.Asked s db question rows db'
        ∧ ((m.insertUpdate s row update).run db).effects
          = [.sent ⟨.fetchAll, question⟩, .logged (.fetched question rows.length)] := by
  rw [insertUpdate_eq] at h ⊢
  cases hcheck : m.check with
  | error refusal' => exact .inl rfl
  | ok _ =>
      rw [hcheck, Action.run_ofCompiled_ok_bind] at h
      rw [Action.run_ofCompiled_ok_bind]
      obtain ⟨conflict, hconflict, hrefused, heffects⟩ :=
        unrefused_conflictColumns.of_bind (refusedFirst_insertMerged row update) h
      have hmalformed : Insert.Malformed row update :=
        (refused_insertMerged hcheck row update conflict _).mp ⟨refusal, hrefused⟩
      rw [heffects]
      cases hquery : s.dialect.conflictColumnsQuery m.table with
      | none =>
          rw [conflictColumns, hquery]
          exact .inl rfl
      | some question =>
          rw [run_conflictColumns hquery] at hconflict ⊢
          cases hanswer : s.driver.fetchAll question db with
          | mk answer db' =>
              cases answer with
              | error cause =>
                  rw [Session.run_fetchAll_error (scalar_question hquery) hanswer] at hconflict
                  cases hconflict
              | ok rows =>
                  rw [Session.run_fetchAll_ok (scalar_question hquery) hanswer]
                  exact .inr ⟨question, rows, db', rfl, hmalformed, ⟨hquery, hanswer⟩, rfl⟩

theorem refused_insertUpdate_asked {row update : Row} {question : Statement} {rows : List Row}
    {db' : σ} (hcheck : m.check = .ok ()) (hmalformed : Insert.Malformed row update)
    (hasked : m.Asked s db question rows db') :
    (∃ refusal, ((m.insertUpdate s row update).run db).result = .error (.refused refusal))
      ∧ ((m.insertUpdate s row update).run db).calls ≠ [] := by
  obtain ⟨hquery, hanswer⟩ := hasked
  have hrun := run_conflictColumns hquery db
  rw [Session.run_fetchAll_ok (scalar_question hquery) hanswer] at hrun
  rw [insertUpdate_eq, hcheck, Action.run_ofCompiled_ok_bind, Action.run_bind_ok (by rw [hrun]; rfl),
    hrun, Ending.calls_after]
  exact ⟨(refused_insertMerged hcheck row update _ _).mpr hmalformed, List.cons_ne_nil _ _⟩

/-! ## Writing rows that are there -/

/-- Without lists a write is not refused, since no report is. -/
theorem unrefused_writeRead (kind : ChangeKind) {write : Statement} (h : write.Scalar)
    (before : List Row) : Action.Unrefused (m.writeRead s kind write before) := by
  refine .bind (Session.unrefused_execute h) fun outcome => ?_
  by_cases haffected : 0 < outcome.affected
  · simp only [if_pos haffected]
    exact .bind (.each (fun _ => unrefused_notify _ _ _) before) fun _ => .pure _
  · simp only [if_neg haffected]
    exact .pure _

theorem refusedFirst_writeRead (kind : ChangeKind) (write : Statement) (before : List Row) :
    Action.RefusedFirst (m.writeRead s kind write before) := by
  by_cases hscalar : write.Scalar
  · exact .of_unrefused (unrefused_writeRead kind hscalar before)
  · intro db refusal _
    rw [writeRead]
    exact (Session.exists_refusal_execute hscalar _ db).elim fun _ hrun =>
      congrArg Ending.effects hrun

theorem refused_writeRead (kind : ChangeKind) (write : Statement) (before : List Row) (db : σ) :
    (∃ refusal, ((m.writeRead s kind write before).run db).result = .error (.refused refusal))
      ↔ ¬ write.Scalar := by
  constructor
  · rintro ⟨refusal, hrefused⟩ hscalar
    exact unrefused_writeRead kind hscalar before db refusal hrefused
  · intro hlist
    rw [writeRead]
    exact (Session.exists_refusal_execute hlist _ db).imp fun _ hrun =>
      congrArg Ending.result hrun

theorem unrefused_preimages {read : Statement}
    (hread : (m.select.filtering fun _ => filter).build = .ok read) :
    Action.Unrefused (m.preimages s filter) := by
  rw [preimages]
  by_cases hobserver : m.observer.isSome
  · rw [if_pos hobserver]
    exact .bind (Session.unrefused_query hread) fun _ => .pure _
  · rw [if_neg hobserver]
    exact .pure _

/-- The rows that a write is about to change are read. -/
def Read (m : Model) (s : Session σ) (db : σ) (filter : Filter) (read : Statement)
    (rows : List Row) (db' : σ) : Prop :=
  m.observer.isSome ∧ (m.select.filtering fun _ => filter).build = .ok read
    ∧ s.driver.fetchAll read db = (.ok rows, db')

theorem Read.run_preimages {read : Statement} {rows : List Row} {db' : σ}
    (h : m.Read s db filter read rows db') :
    (m.preimages s filter).run db
      = ⟨.ok rows, db', [.sent ⟨.fetchAll, read⟩, .logged (.fetched read rows.length)]⟩ := by
  obtain ⟨hobserver, hread, hanswer⟩ := h
  obtain ⟨observer, hsome⟩ := Option.isSome_iff_exists.mp hobserver
  rw [Model.run_preimages hsome hread, Session.run_fetchAll_ok (Select.scalar hread) hanswer]

/-- Rows are read if there is someone to tell, and then the query may be rejected. -/
theorem read_or_not {read : Statement} (hread : (m.select.filtering fun _ => filter).build = .ok read)
    (s : Session σ) (db : σ) :
    (m.preimages s filter).run db = ⟨.ok [], db, []⟩
      ∨ (∃ rows db', m.Read s db filter read rows db')
      ∨ ∃ cause, ((m.preimages s filter).run db).result = .error (.rejected read cause) := by
  cases hobserver : m.observer with
  | none =>
      left
      rw [preimages, hobserver]
      rfl
  | some observer =>
      cases hanswer : s.driver.fetchAll read db with
      | mk answer db' =>
          cases answer with
          | ok rows => exact .inr (.inl ⟨rows, db', by rw [hobserver]; rfl, hread, hanswer⟩)
          | error cause =>
              rw [run_preimages hobserver hread,
                Session.run_fetchAll_error (Select.scalar hread) hanswer]
              exact .inr (.inr ⟨cause, rfl⟩)

end Model

namespace RowChange

open Model (unrefused_preimages refusedFirst_writeRead refused_writeRead read_or_not)

variable {σ : Type} {m : Model} {s : Session σ} {w : RowChange} {db : σ}

/-- The values that columns take. -/
def taken : RowChange → List Value
  | update _ row | updateWhere _ row => row.values
  | increment _ _ amount => [.int amount]
  | delete _ | deleteWhere _ => []

theorem scalar_setRow {table : String} {filter : Filter} {row : Row} {d : Dialect}
    {write : Statement}
    (h : Update.build { ({ table } : Update).setRow row with filter } d = .ok write) :
    write.Scalar ↔ ∀ v ∈ row.values, v.isScalar := by
  have hwritten : Builder.written (.update { ({ table } : Update).setRow row with filter })
      = row.values := by
    show (row.entries.map fun e => Assignment.set e.1 e.2).map Assignment.value
      = row.entries.map Prod.snd
    rw [List.map_map]
    rfl
  rw [← hwritten]
  exact Builder.scalar_iff (b := .update _) h

theorem scalar_compiled {d : Dialect} {write : Statement} (h : w.compiled m d = .ok write) :
    write.Scalar ↔ ∀ v ∈ w.taken, v.isScalar := by
  cases w with
  | update id row => exact scalar_setRow h
  | updateWhere filter row => exact scalar_setRow h
  | increment id column amount => exact Builder.scalar_iff (b := .update _) h
  | delete id => exact Builder.scalar_iff (b := .delete _) h
  | deleteWhere filter => exact Builder.scalar_iff (b := .delete _) h

/-- An update that takes anything is compiled, if its filter is. -/
theorem exists_build_setRow {table : String} {filter : Filter} {row : Row} (d : Dialect)
    (htable : Text.isBlankText table = false) {condition : Option Fragment}
    (hcompile : filter.compile = .ok condition) (hrow : row.values ≠ []) :
    ∃ write, Update.build { ({ table } : Update).setRow row with filter } d = .ok write := by
  obtain ⟨clause, hclause⟩ : ∃ clause, filter.clause = .ok clause := by
    rw [Filter.clause, hcompile]
    cases condition with
    | none => exact ⟨_, rfl⟩
    | some condition => exact ⟨_, rfl⟩
  have hnamed : ¬ Text.isBlankText table := by
    rw [htable]
    exact Bool.false_ne_true
  have hassigned : ¬ (row.entries.map fun e => Assignment.set e.1 e.2).isEmpty := by
    rw [List.isEmpty_iff, List.map_eq_nil_iff]
    exact fun hentries => hrow (congrArg (List.map Prod.snd) hentries)
  have hfragment : ({ ({ table } : Update).setRow row with filter } : Update).fragment d
      = .ok (.text ("UPDATE " ++ d.quote table ++ " SET ") ++ .joined ", "
        ((row.entries.map fun e => Assignment.set e.1 e.2).map (Assignment.render d)) ++ clause) := by
    rw [Update.fragment_eq, ite_error_eq_ok, ite_error_eq_ok]
    exact ⟨hnamed, hassigned, bind_eq_ok.mpr ⟨clause, hclause, rfl⟩⟩
  exact ⟨_, map_eq_ok.mpr ⟨_, hfragment, rfl⟩⟩

/-- The changes that take lists are compiled, if their filters are. -/
theorem exists_compiled (d : Dialect) (hcheck : m.check = .ok ()) {condition : Option Fragment}
    (hcompile : (w.filter m).compile = .ok condition) (hlist : ¬ ∀ v ∈ w.taken, v.isScalar) :
    ∃ write, w.compiled m d = .ok write := by
  have htaken : w.taken ≠ [] := fun hnil => hlist fun v hv => absurd (hnil ▸ hv) List.not_mem_nil
  cases w with
  | update id row => exact exists_build_setRow d (Model.isBlankText_table hcheck) hcompile htaken
  | updateWhere filter row =>
      exact exists_build_setRow d (Model.isBlankText_table hcheck) hcompile htaken
  | increment id column amount =>
      refine absurd (fun v hv => ?_) hlist
      cases List.mem_singleton.mp hv
      rfl
  | delete id => exact absurd rfl htaken
  | deleteWhere filter => exact absurd rfl htaken

/-- There are predicates to select the rows by, they are read by them, and a list is among the
values that columns of these rows are to take. -/
def ListBehindRead (w : RowChange) (m : Model) (s : Session σ) (db : σ) (read : Statement)
    (rows : List Row) (db' : σ) : Prop :=
  m.check = .ok () ∧ (w.filter m).isEmpty = false ∧ m.Read s db (w.filter m) read rows db'
    ∧ ¬ ∀ v ∈ w.taken, v.isScalar

/-- A change that is refused has sent nothing, or has read the rows. -/
theorem refused_run {refusal : Refusal}
    (h : ((w.run m s).run db).result = .error (.refused refusal)) :
    ((w.run m s).run db).effects = []
      ∨ ∃ read rows db', w.ListBehindRead m s db read rows db'
        ∧ ((w.run m s).run db).effects
          = [.sent ⟨.fetchAll, read⟩, .logged (.fetched read rows.length)] := by
  rw [run_eq] at h ⊢
  cases hcheck : m.check with
  | error refusal' => exact .inl rfl
  | ok _ =>
    rw [hcheck, Action.run_ofCompiled_ok_bind] at h
    rw [Action.run_ofCompiled_ok_bind]
    cases hempty : (w.filter m).isEmpty with
    | true =>
      rw [if_pos hempty] at h
      cases h
    | false =>
      rw [if_neg (by rw [hempty]; exact Bool.false_ne_true)] at h
      rw [if_neg Bool.false_ne_true]
      cases hcompiled : w.compiled m s.dialect with
      | error refusal' => exact .inl rfl
      | ok write =>
        obtain ⟨read, hread, _⟩ := exists_read hcheck (conditionalWrite hempty hcompiled)
        rw [hcompiled, Model.write_ok] at h
        rw [Model.write_ok]
        obtain ⟨before, hbefore, hrefused, heffects⟩ :=
          (unrefused_preimages hread).of_bind (refusedFirst_writeRead w.kind write) h
        rw [heffects]
        have hlist : ¬ ∀ v ∈ w.taken, v.isScalar := fun hscalar =>
          (refused_writeRead w.kind write before _).mp ⟨refusal, hrefused⟩
            ((scalar_compiled hcompiled).mpr hscalar)
        rcases read_or_not hread s db with hunread | ⟨rows, db', hrows⟩ | ⟨cause, hrejected⟩
        · rw [hunread]
          exact .inl rfl
        · rw [hrows.run_preimages]
          exact .inr ⟨read, rows, db', ⟨hcheck, hempty, hrows, hlist⟩, rfl⟩
        · rw [hrejected] at hbefore
          cases hbefore

/-- A list that is found behind the read is refused there. -/
theorem ListBehindRead.refused {read : Statement} {rows : List Row} {db' : σ}
    (h : w.ListBehindRead m s db read rows db') :
    (∃ refusal, ((w.run m s).run db).result = .error (.refused refusal))
      ∧ ((w.run m s).run db).calls ≠ [] := by
  obtain ⟨hcheck, hempty, hrows, hlist⟩ := h
  obtain ⟨condition, hcompile⟩ := Builder.exists_compile (b := .select _) (d := s.dialect) hrows.2.1
  obtain ⟨write, hcompiled⟩ := exists_compiled s.dialect hcheck hcompile hlist
  have hrefused := (refused_writeRead (m := m) (s := s) w.kind write rows db').mpr fun hscalar =>
    hlist ((scalar_compiled hcompiled).mp hscalar)
  rw [run_eq, hcheck, Action.run_ofCompiled_ok_bind,
    if_neg (by rw [hempty]; exact Bool.false_ne_true), hcompiled, Model.write_ok,
    Action.run_bind_ok (by rw [hrows.run_preimages]), hrows.run_preimages, Ending.calls_after]
  exact ⟨hrefused, List.cons_ne_nil _ _⟩

/-- A change that takes no lists is refused first. -/
theorem refusedFirst_run (h : ∀ v ∈ w.taken, v.isScalar) : Action.RefusedFirst (w.run m s) :=
  fun _ _ hrefused => (refused_run hrefused).resolve_right
    fun ⟨_, _, _, ⟨_, _, _, hlist⟩, _⟩ => hlist h

end RowChange

/-! ## Operations on single rows -/

namespace Operation

variable {σ : Type} {m : Model} {s : Session σ} {o : Operation} {db : σ}

/-- Many rows are inserted. -/
def isBatch : Operation → Bool
  | insertBatch _ _ | insertUpdateBatch _ _ => true
  | _ => false

/-- Something is wrong with what is to be written, and a query is answered before it is
noticed. -/
def NoticedLate (m : Model) (s : Session σ) (db : σ) : Operation → Prop
  | insertUpdate row changes => m.check = .ok () ∧ Insert.Malformed row changes
      ∧ ∃ question rows db', m.Asked s db question rows db'
  | update id row => ∃ read rows db',
      (RowChange.update id row).ListBehindRead m s db read rows db'
  | updateWhere filter row => ∃ read rows db',
      (RowChange.updateWhere filter row).ListBehindRead m s db read rows db'
  | _ => False

/-- What an operation on single rows has done when it is refused. -/
theorem effects_of_refused (hsingle : o.isBatch = false) {refusal : Refusal}
    (h : ((o.run m s).run db).result = .error (.refused refusal)) :
    ((o.run m s).run db).effects = []
      ∨ o.NoticedLate m s db ∧ ∃ query rows, ((o.run m s).run db).effects
        = [.sent ⟨.fetchAll, query⟩, .logged (.fetched query rows)] := by
  have hfirst : Action.RefusedFirst (o.run m s) → ((o.run m s).run db).effects = [] :=
    fun hrun => hrun db refusal h
  cases o with
  | find id => exact .inl (hfirst (Model.refusedFirst_find id))
  | count filter => exact .inl (hfirst (.bind (Model.refusedFirst_valueOf _) fun _ => .pure _))
  | max column filter => exact .inl (hfirst (Model.refusedFirst_aggregate _ _))
  | min column filter => exact .inl (hfirst (Model.refusedFirst_aggregate _ _))
  | sum column => exact .inl (hfirst (Model.refusedFirst_aggregate _ _))
  | conflictColumns => exact .inl (hfirst (.of_unrefused Model.unrefused_conflictColumns))
  | insert row ignore => exact .inl (hfirst (Model.refusedFirst_insertOne _ _))
  | replace row => exact .inl (hfirst (Model.refusedFirst_insertOne _ _))
  | insertUpdate row update =>
      refine (Model.refused_insertUpdate h).imp_right ?_
      rintro ⟨question, rows, db', hcheck, hmalformed, hasked, heffects⟩
      exact ⟨⟨hcheck, hmalformed, question, rows, db', hasked⟩, question, rows.length, heffects⟩
  | update id row =>
      refine (RowChange.refused_run (w := .update id row) h).imp_right ?_
      rintro ⟨read, rows, db', hlate, heffects⟩
      exact ⟨⟨read, rows, db', hlate⟩, read, rows.length, heffects⟩
  | updateWhere filter row =>
      refine (RowChange.refused_run (w := .updateWhere filter row) h).imp_right ?_
      rintro ⟨read, rows, db', hlate, heffects⟩
      exact ⟨⟨read, rows, db', hlate⟩, read, rows.length, heffects⟩
  | increment id column amount =>
      refine .inl (hfirst (RowChange.refusedFirst_run (w := .increment id column amount) ?_))
      exact fun v hv => List.mem_singleton.mp hv ▸ rfl
  | delete id =>
      exact .inl (hfirst (RowChange.refusedFirst_run (w := .delete id) fun _ hv => nomatch hv))
  | deleteWhere filter =>
      exact .inl (hfirst (RowChange.refusedFirst_run (w := .deleteWhere filter)
        fun _ hv => nomatch hv))
  | insertBatch rows ignore => cases hsingle
  | insertUpdateBatch rows policy => cases hsingle

/-- What is noticed late is refused behind the query. -/
theorem NoticedLate.refused (h : o.NoticedLate m s db) :
    (∃ refusal, ((o.run m s).run db).result = .error (.refused refusal))
      ∧ ((o.run m s).run db).calls ≠ [] := by
  cases o with
  | insertUpdate row update =>
      obtain ⟨hcheck, hmalformed, _, _, _, hasked⟩ := h
      exact Model.refused_insertUpdate_asked hcheck hmalformed hasked
  | update id row =>
      obtain ⟨_, _, _, hlate⟩ := h
      exact hlate.refused
  | updateWhere filter row =>
      obtain ⟨_, _, _, hlate⟩ := h
      exact hlate.refused
  | _ => exact False.elim h

/-- An operation on single rows is refused behind a statement that was sent in just two cases:
the rows of an insert or update are not well-formed, and SQLite was asked for the columns of a
conflict; or a list is among the values of an update, and the rows were read for an observer.
One query has been sent then, nothing was written, and nothing was reported. -/
theorem refused_behind_query_iff (m : Model) (s : Session σ) (o : Operation)
    (hsingle : o.isBatch = false) (db : σ) :
    ((∃ refusal, ((o.run m s).run db).result = .error (.refused refusal)) →
        ((o.run m s).run db).events = []
          ∧ (((o.run m s).run db).calls = []
            ∨ ∃ query, ((o.run m s).run db).calls = [⟨.fetchAll, query⟩]))
      ∧ ((∃ refusal, ((o.run m s).run db).result = .error (.refused refusal))
          ∧ ((o.run m s).run db).calls ≠ [] ↔ o.NoticedLate m s db) := by
  refine ⟨?_, ?_, NoticedLate.refused⟩
  · rintro ⟨refusal, hrefused⟩
    rw [Ending.events, Ending.calls]
    rcases effects_of_refused hsingle hrefused with heffects | ⟨_, query, rows, heffects⟩
    · rw [heffects]
      exact ⟨rfl, .inl rfl⟩
    · rw [heffects]
      exact ⟨rfl, .inr ⟨query, rfl⟩⟩
  · rintro ⟨⟨refusal, hrefused⟩, hcalls⟩
    rcases effects_of_refused hsingle hrefused with heffects | ⟨hlate, _⟩
    · rw [Ending.calls, heffects] at hcalls
      exact absurd rfl hcalls
    · exact hlate

/-- A row is inserted or left as it is. -/
def insertOrKeep : Operation := .insertUpdate (.ofPairs [("id", .int 1)]) .empty

/-- The row without columns is refused when SQLite has answered. -/
theorem refused_behind_query_iff_insertOrKeep :
    insertOrKeep.isBatch = false
      ∧ (∃ refusal, ((insertOrKeep.run { table := "t" } RowChange.auditSession).run {}).result
          = .error (.refused refusal))
      ∧ ((insertOrKeep.run { table := "t" } RowChange.auditSession).run {}).calls ≠ [] := by
  have hlate : insertOrKeep.NoticedLate { table := "t" } RowChange.auditSession {} :=
    ⟨by rfl, .inr (.inl rfl), _, [], {}, rfl, rfl⟩
  obtain ⟨_, hlate_iff⟩ := refused_behind_query_iff { table := "t" } RowChange.auditSession
    insertOrKeep rfl {}
  exact ⟨rfl, hlate_iff.mpr hlate⟩

end Operation

end BoundSql
