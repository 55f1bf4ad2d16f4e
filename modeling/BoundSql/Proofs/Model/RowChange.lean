import BoundSql.Driver.Script
import BoundSql.Model
import BoundSql.Proofs.Session
import BoundSql.Proofs.Statement.Conditional

/-!
# Changing rows that are there

Rows are changed in five ways, and `RowChange` is the choice between them.  All of them
check the model, do nothing without a condition, and write otherwise.  When someone observes
the model a write takes its course in steps: the rows are read by the condition of the write,
the write is sent, and what was read is told to the observer if there were rows to change.
Every step may end the course (`Model.Course`).

Since the course is known, so is what an observer gets to see
(`RowChange.reports_preimages`).
-/

namespace BoundSql

/-- An observer is told of a row, whether it hears of it or not. -/
def Effect.tells : Effect → Bool
  | .reported _ _ | .logged (.receiverDropped _) => true
  | _ => false

/-- No one is told of anything. -/
structure Ending.Silent {σ α : Type} (e : Ending σ α) : Prop where
  events : e.events = []
  untold : ∀ effect ∈ e.effects, ¬ effect.tells

namespace Model

variable {σ : Type} {m : Model} {s : Session σ} {observer : Observer} {kind : ChangeKind}
  {filter : Filter} {condition : Fragment} {read write : Statement} {db db' : σ}

/-! ## Reading and telling -/

/-- The query for the rows that are about to be changed. -/
def readBefore (m : Model) (condition : Fragment) : Statement :=
  ⟨"SELECT * FROM " ++ m.table ++ " WHERE " ++ condition.sql, condition.params⟩

/-- What there is to tell of a row that was there. -/
def report (m : Model) (kind : ChangeKind) (row : Row) : ChangeEvent :=
  ⟨m.table, kind, (row.get? m.primaryKey).getD .null, row⟩

/-- An observer is told of a row that was there.  If no one receives it that is recorded. -/
def told (m : Model) (observer : Observer) (kind : ChangeKind) (row : Row) : Effect :=
  if observer.kind = .channel false then .logged (.receiverDropped m.table)
  else .reported observer (m.report kind row)

theorem run_notifyChanged (hobserver : m.observer = some observer) (row : Row) (db : σ) :
    (m.notifyChanged kind row).run db = ⟨.ok (), db, [m.told observer kind row]⟩ := by
  rw [notifyChanged, notify, hobserver, told]
  by_cases hclosed : observer.kind = .channel false
  · simp only [if_pos hclosed]
    rfl
  · simp only [if_neg hclosed]
    rfl

theorem build_select (hcheck : m.check = .ok ()) (h : filter.compile = .ok (some condition)) :
    (m.select.filtering fun _ => filter).build = .ok (m.readBefore condition) := by
  have htable : ¬ Text.isBlankText m.table := by
    intro hblank
    rw [check, if_pos hblank] at hcheck
    cases hcheck
  have hclause : filter.clause = .ok (.text " WHERE " ++ condition) := by
    rw [Filter.clause, h]
    rfl
  have hfragment : (m.select.filtering fun _ => filter).fragment = .ok
      (.text ("SELECT * FROM " ++ m.table) ++ (.text " WHERE " ++ condition) ++ .text "") := by
    rw [Select.fragment_eq, show (m.select.filtering fun _ => filter).filter = filter from rfl,
      hclause]
    exact if_neg htable
  have hsql : Fragment.sql (.text ("SELECT * FROM " ++ m.table) ++ (.text " WHERE " ++ condition)
      ++ .text "") = "SELECT * FROM " ++ m.table ++ " WHERE " ++ condition.sql := by
    simp only [Fragment.sql_eq_written, Fragment.written_append, Fragment.written_text,
      String.append_assoc, String.append_empty]
  have hparams : Fragment.params (.text ("SELECT * FROM " ++ m.table)
      ++ (.text " WHERE " ++ condition) ++ .text "") = condition.params := by
    simp only [Fragment.params_append, Fragment.params_text, List.nil_append, List.append_nil]
  have hstatement : Statement.mk _ _ = ⟨_, _⟩ := congr (congrArg Statement.mk hsql) hparams
  rw [Select.build, hfragment]
  exact congrArg Except.ok hstatement

theorem run_preimages (hobserver : m.observer = some observer)
    (hread : (m.select.filtering fun _ => filter).build = .ok read) (db : σ) :
    (m.preimages s filter).run db = (s.fetchAll read).run db := by
  have hsome : m.observer.isSome := by rw [hobserver]; rfl
  rw [preimages, if_pos hsome, Session.query, hread]
  show ((s.fetchAll read >>= fun rows => pure (ResultSet.mk rows)) >>= fun found =>
    pure found.rows).run db = _
  rw [Action.run_bind_pure, Action.run_bind_pure, Ending.map_map]
  exact Ending.map_id _

/-! ## The course of a write -/

/-- How a write ends, step by step. -/
inductive Course (m : Model) (s : Session σ) (observer : Observer) (kind : ChangeKind)
    (read write : Statement) (db : σ) : Ending σ UInt64 → Prop
  -- the query has a list among its parameters
  | unsent {refusal : Refusal} :
      Course m s observer kind read write db ⟨.error (.refused refusal), db, []⟩
  | unread {cause : DriverFailure} {db' : σ} :
      s.driver.fetchAll read db = (.error cause, db') →
      Course m s observer kind read write db
        ⟨.error (.rejected read cause), db',
          [.sent ⟨.fetchAll, read⟩, .logged (.rejected read cause)]⟩
  -- the write has a list among its parameters
  | refused {rows : List Row} {db' : σ} {refusal : Refusal} :
      s.driver.fetchAll read db = (.ok rows, db') →
      Course m s observer kind read write db
        ⟨.error (.refused refusal), db',
          [.sent ⟨.fetchAll, read⟩, .logged (.fetched read rows.length)]⟩
  | rejected {rows : List Row} {db' db'' : σ} {cause : DriverFailure} :
      s.driver.fetchAll read db = (.ok rows, db') →
      s.driver.execute write db' = (.error cause, db'') →
      Course m s observer kind read write db
        ⟨.error (.rejected write cause), db'',
          [.sent ⟨.fetchAll, read⟩, .logged (.fetched read rows.length),
            .sent ⟨.execute, write⟩, .logged (.rejected write cause)]⟩
  | idle {rows : List Row} {db' db'' : σ} {outcome : Outcome} :
      s.driver.fetchAll read db = (.ok rows, db') →
      s.driver.execute write db' = (.ok outcome, db'') → outcome.affected = 0 →
      Course m s observer kind read write db
        ⟨.ok 0, db'',
          [.sent ⟨.fetchAll, read⟩, .logged (.fetched read rows.length),
            .sent ⟨.execute, write⟩, .logged (.executed write 0)]⟩
  | written {rows : List Row} {db' db'' : σ} {outcome : Outcome} :
      s.driver.fetchAll read db = (.ok rows, db') →
      s.driver.execute write db' = (.ok outcome, db'') → outcome.affected ≠ 0 →
      Course m s observer kind read write db
        ⟨.ok outcome.affected, db'',
          [.sent ⟨.fetchAll, read⟩, .logged (.fetched read rows.length),
            .sent ⟨.execute, write⟩, .logged (.executed write outcome.affected)]
          ++ rows.map (m.told observer kind)⟩

/-- What is left to do of a write when the rows are known. -/
def writeRead (m : Model) (s : Session σ) (kind : ChangeKind) (write : Statement)
    (before : List Row) : Action σ UInt64 := do
  let outcome ← s.execute write
  if 0 < outcome.affected then Action.each (m.notifyChanged kind) before
  pure outcome.affected

/-- A write that compiles reads the rows first. -/
theorem write_ok (m : Model) (s : Session σ) (filter : Filter) (kind : ChangeKind)
    (write : Statement) :
    m.write s filter kind (.ok write) = m.preimages s filter >>= m.writeRead s kind write :=
  rfl

theorem run_writeRead (hobserver : m.observer = some observer) {outcome : Outcome}
    (hscalar : write.Scalar) (hanswer : s.driver.execute write db = (.ok outcome, db'))
    (rows : List Row) :
    (m.writeRead s kind write rows).run db
      = ⟨.ok outcome.affected, db',
          [.sent ⟨.execute, write⟩, .logged (.executed write outcome.affected)]
          ++ if outcome.affected = 0 then [] else rows.map (m.told observer kind)⟩ := by
  have hrun := Session.run_execute_ok hscalar hanswer
  rw [writeRead, Action.run_bind_ok (by rw [hrun]), hrun]
  by_cases hidle : outcome.affected = 0
  · have hnot : ¬ 0 < outcome.affected := by simp [hidle]
    simp only [if_pos hidle, if_neg hnot]
    rfl
  · have hpos : 0 < outcome.affected := UInt64.pos_iff_ne_zero.mpr hidle
    have heach : (Action.each (m.notifyChanged kind) rows).run db' = _ :=
      Action.run_each (run_notifyChanged hobserver) rows db'
    simp only [if_neg hidle, if_pos hpos]
    rw [Action.run_bind_ok (by rw [heach]), heach, Action.run_pure, Ending.after_after]
    simp [Ending.after]

/-- A write takes its course when the rows have been read. -/
theorem course_writeRead (hobserver : m.observer = some observer) {rows : List Row}
    (hfetch : s.driver.fetchAll read db = (.ok rows, db')) (kind : ChangeKind)
    (write : Statement) :
    m.Course s observer kind read write db (((m.writeRead s kind write rows).run db').after
      [.sent ⟨.fetchAll, read⟩, .logged (.fetched read rows.length)]) := by
  by_cases hscalar : write.Scalar
  · cases hexecute : s.driver.execute write db' with
    | mk answer db'' =>
      cases answer with
      | error cause =>
        have hrun := Session.run_execute_error hscalar hexecute
        rw [writeRead, Action.run_bind_error (by rw [hrun]), hrun]
        exact .rejected hfetch hexecute
      | ok outcome =>
        rw [run_writeRead hobserver hscalar hexecute]
        by_cases hidle : outcome.affected = 0
        · rw [if_pos hidle, hidle]
          exact .idle hfetch hexecute hidle
        · rw [if_neg hidle]
          exact .written hfetch hexecute hidle
  · obtain ⟨refusal, hrefused⟩ := Session.checkParams_eq_error hscalar
    have hrun : (s.execute write).run db' = _ := Session.run_execute_refused hrefused
    rw [writeRead, Action.run_bind_error (by rw [hrun]), hrun]
    exact .refused hfetch

theorem course_write (hobserver : m.observer = some observer)
    (hread : (m.select.filtering fun _ => filter).build = .ok read) (kind : ChangeKind)
    (write : Statement) (db : σ) :
    m.Course s observer kind read write db ((m.write s filter kind (.ok write)).run db) := by
  have hpreimages := run_preimages (s := s) hobserver hread db
  rw [write_ok]
  by_cases hscalar : read.Scalar
  · cases hfetch : s.driver.fetchAll read db with
    | mk answer db' =>
      cases answer with
      | error cause =>
        rw [Session.run_fetchAll_error hscalar hfetch] at hpreimages
        rw [Action.run_bind_error (by rw [hpreimages]), hpreimages]
        exact .unread hfetch
      | ok rows =>
        rw [Session.run_fetchAll_ok hscalar hfetch] at hpreimages
        rw [Action.run_bind_ok (by rw [hpreimages]), hpreimages]
        exact course_writeRead hobserver hfetch kind write
  · obtain ⟨refusal, hrefused⟩ := Session.checkParams_eq_error hscalar
    have hrun : (s.fetchAll read).run db = _ := Session.run_fetchAll_refused hrefused
    rw [Action.run_bind_error (by rw [hpreimages, hrun]), hpreimages, hrun]
    exact .unsent

/-! ## What an observer gets to see -/

/-- A query and a write are about the same rows: the write has the condition of the filter,
and the query has the same text behind `WHERE` and the same parameters for it. -/
structure SameRows (d : Dialect) (m : Model) (filter : Filter) (read write : Statement) : Prop where
  conditional : ConditionalWrite d m.table filter write
  condition : ∃ condition, filter.compile = .ok (some condition) ∧ read = m.readBefore condition
    ∧ ∃ head values, write = ⟨head ++ " WHERE " ++ condition.sql, values ++ condition.params⟩

/-- A change ends as the driver answers the write, behind a query that returned some rows. -/
structure Answered (m : Model) (s : Session σ) (observer : Observer) (kind : ChangeKind)
    (read write : Statement) (rows : List Row) (db : σ) (e : Ending σ UInt64) : Prop where
  /-- It fails if the driver rejects the write. -/
  rejected : ∀ cause db', s.driver.execute write db = (.error cause, db') →
    e.result = .error (.rejected write cause)
  /-- Else the result is the number of rows that the driver says were affected. -/
  result : ∀ outcome db', s.driver.execute write db = (.ok outcome, db') →
    e.result = .ok outcome.affected
  /-- Nothing is told if there are none. -/
  idle : ∀ outcome db', s.driver.execute write db = (.ok outcome, db') → outcome.affected = 0 →
    e.Silent
  /-- If there are any, the observer is told of each row that was returned, in order. -/
  told : ∀ outcome db', s.driver.execute write db = (.ok outcome, db') → outcome.affected ≠ 0 →
    e.effects = [.sent ⟨.fetchAll, read⟩, .logged (.fetched read rows.length),
        .sent ⟨.execute, write⟩, .logged (.executed write outcome.affected)]
      ++ rows.map (m.told observer kind)
    ∧ (observer.kind ≠ .channel false → e.events = rows.map (m.report kind))

/-- What an observer gets to see of a change of the rows that a filter selects. -/
structure Reports (m : Model) (s : Session σ) (observer : Observer) (kind : ChangeKind)
    (filter : Filter) (db : σ) (e : Ending σ UInt64) : Prop where
  /-- A query is sent at most, and then a write of the same rows at most. -/
  calls : e.calls = [] ∨ ∃ read write, SameRows s.dialect m filter read write
    ∧ (e.calls = [⟨.fetchAll, read⟩] ∨ e.calls = [⟨.fetchAll, read⟩, ⟨.execute, write⟩])
  /-- Nothing is told of a change that fails. -/
  failed : ∀ failure, e.result = .error failure → e.Silent
  /-- Nothing is written if the query fails. -/
  unread : ∀ read cause db', ⟨.fetchAll, read⟩ ∈ e.calls →
    s.driver.fetchAll read db = (.error cause, db') →
    e.calls = [⟨.fetchAll, read⟩] ∧ e.result = .error (.rejected read cause)
  /-- Nothing is told if nothing is written, and without a failure this is so only if there
  is no condition. -/
  unwritten : (∀ write, ⟨.execute, write⟩ ∉ e.calls) → e.Silent
    ∧ ((∃ failure, e.result = .error failure) ∨ filter.isEmpty ∧ e.result = .ok 0)
  /-- A write is sent behind a query of the same rows that was answered, and what the driver
  answers to it decides what is told. -/
  written : ∀ write, ⟨.execute, write⟩ ∈ e.calls → ∃ read rows db',
    SameRows s.dialect m filter read write
      ∧ e.calls = [⟨.fetchAll, read⟩, ⟨.execute, write⟩]
      ∧ s.driver.fetchAll read db = (.ok rows, db')
      ∧ m.Answered s observer kind read write rows db' e

theorem event?_told (hopen : observer.kind ≠ .channel false) (rows : List Row) :
    (rows.map (m.told observer kind)).filterMap Effect.event? = rows.map (m.report kind) := by
  have hevent : ∀ row, (m.told observer kind row).event? = some (m.report kind row) := fun row => by
    rw [told, if_neg hopen]
    rfl
  rw [List.filterMap_map, ← List.filterMap_eq_map]
  exact congrArg (List.filterMap · rows) (funext hevent)

theorem call?_told (rows : List Row) :
    (rows.map (m.told observer kind)).filterMap Effect.call? = [] := by
  rw [List.filterMap_map]
  refine List.filterMap_eq_nil_iff.mpr fun row _ => ?_
  rw [Function.comp_apply, told]
  split <;> rfl

/-- Nothing is told if nothing is sent. -/
theorem reports_unsent {result : Except Failure UInt64} {records : List LogRecord}
    (hresult : (∃ failure, result = .error failure) ∨ filter.isEmpty ∧ result = .ok 0)
    (hrecords : ∀ record ∈ records, ¬ (Effect.logged record).tells) :
    m.Reports s observer kind filter db ⟨result, db, records.map .logged⟩ := by
  have hcalls : (Ending.mk result db (records.map Effect.logged)).calls = [] :=
    Effect.filterMap_logged (fun _ => rfl) records
  have hsilent : (Ending.mk result db (records.map Effect.logged)).Silent := by
    refine ⟨Effect.filterMap_logged (fun _ => rfl) records, fun effect heffect => ?_⟩
    obtain ⟨record, hrecord, rfl⟩ := List.mem_map.mp heffect
    exact hrecords record hrecord
  refine ⟨.inl hcalls, fun _ _ => hsilent, fun read cause db' hcall _ => ?_,
    fun _ => ⟨hsilent, hresult⟩, fun write hcall => ?_⟩
  · exact absurd (hcalls ▸ hcall) List.not_mem_nil
  · exact absurd (hcalls ▸ hcall) List.not_mem_nil

theorem reports_refused (refusal : Refusal) :
    m.Reports s observer kind filter db ⟨.error (.refused refusal), db, []⟩ :=
  have hreports : m.Reports s observer kind filter db
      ⟨.error (.refused refusal), db, ([] : List LogRecord).map .logged⟩ :=
    reports_unsent (.inl ⟨_, rfl⟩) fun _ hrecord => absurd hrecord List.not_mem_nil
  hreports

/-- The query is sent, and no write behind it. -/
theorem reports_of_read {e : Ending σ UInt64} (hsame : SameRows s.dialect m filter read write)
    (hcalls : e.calls = [⟨.fetchAll, read⟩]) {failure : Failure}
    (hresult : e.result = .error failure)
    (hunread : ∀ cause db', s.driver.fetchAll read db = (.error cause, db') →
      e.result = .error (.rejected read cause)) (hsilent : e.Silent) :
    m.Reports s observer kind filter db e := by
  refine ⟨.inr ⟨read, write, hsame, .inl hcalls⟩, fun _ _ => hsilent,
    fun read' cause db' hcall hfetch => ?_, fun _ => ⟨hsilent, .inl ⟨failure, hresult⟩⟩,
    fun write' hcall => ?_⟩
  · rw [hcalls] at hcall
    cases List.mem_singleton.mp hcall
    exact ⟨hcalls, hunread cause db' hfetch⟩
  · rw [hcalls] at hcall
    cases List.mem_singleton.mp hcall

/-- The query is answered, and the write is sent. -/
theorem reports_of_write {e : Ending σ UInt64} {rows : List Row}
    (hsame : SameRows s.dialect m filter read write)
    (hfetch : s.driver.fetchAll read db = (.ok rows, db'))
    (hcalls : e.calls = [⟨.fetchAll, read⟩, ⟨.execute, write⟩])
    (hfailed : ∀ failure, e.result = .error failure → e.Silent)
    (hanswered : m.Answered s observer kind read write rows db' e) :
    m.Reports s observer kind filter db e := by
  refine ⟨.inr ⟨read, write, hsame, .inr hcalls⟩, hfailed,
    fun read' cause db'' hcall hunread => ?_, fun hnone => ?_, fun write' hcall => ?_⟩
  · rw [hcalls] at hcall
    rcases List.mem_cons.mp hcall with hread | hwrite
    · cases hread
      cases hfetch.symm.trans hunread
    · cases List.mem_singleton.mp hwrite
  · refine absurd ?_ (hnone write)
    rw [hcalls]
    exact List.mem_cons_of_mem _ List.mem_cons_self
  · rw [hcalls] at hcall
    rcases List.mem_cons.mp hcall with hread | hwrite
    · cases hread
    · cases List.mem_singleton.mp hwrite
      exact ⟨read, rows, db', hsame, hcalls, hfetch, hanswered⟩

/-- A write that was rejected was not answered in any other way. -/
theorem answered_of_error {e : Ending σ UInt64} {rows : List Row} {cause : DriverFailure}
    (hexecute : s.driver.execute write db = (.error cause, db'))
    (hresult : e.result = .error (.rejected write cause)) :
    m.Answered s observer kind read write rows db e where
  rejected cause' db'' hanswer := by
    cases hexecute.symm.trans hanswer
    exact hresult
  result outcome db'' hanswer := nomatch hexecute.symm.trans hanswer
  idle outcome db'' hanswer := nomatch hexecute.symm.trans hanswer
  told outcome db'' hanswer := nomatch hexecute.symm.trans hanswer

/-- Whatever course a write takes, the observer gets to see it. -/
theorem Course.reports {e : Ending σ UInt64} (hsame : SameRows s.dialect m filter read write)
    (h : m.Course s observer kind read write db e) : m.Reports s observer kind filter db e := by
  cases h with
  | unsent => exact reports_refused _
  | unread hfetch =>
    refine reports_of_read hsame rfl rfl (fun cause db' hunread => ?_) ⟨rfl, by simp [Effect.tells]⟩
    cases hfetch.symm.trans hunread
    rfl
  | refused hfetch =>
    refine reports_of_read hsame rfl rfl (fun cause db' hunread => ?_) ⟨rfl, by simp [Effect.tells]⟩
    cases hfetch.symm.trans hunread
  | rejected hfetch hexecute =>
    exact reports_of_write hsame hfetch rfl (fun _ _ => ⟨rfl, by simp [Effect.tells]⟩)
      (answered_of_error hexecute rfl)
  | idle hfetch hexecute hidle =>
    refine reports_of_write hsame hfetch rfl nofun ⟨fun _ _ h => ?_, fun _ _ h => ?_,
      fun _ _ _ _ => ⟨rfl, by simp [Effect.tells]⟩, fun _ _ h haffected => ?_⟩
    · cases hexecute.symm.trans h
    · cases hexecute.symm.trans h
      exact congrArg Except.ok hidle.symm
    · cases hexecute.symm.trans h
      exact absurd hidle haffected
  | @written rows _ _ outcome hfetch hexecute haffected =>
    -- nothing is sent after the write, and all that is told comes after it
    refine reports_of_write hsame hfetch ?_ nofun ⟨fun _ _ h => ?_, fun _ _ h => ?_,
      fun _ _ h hidle => ?_, fun _ _ h _ => ?_⟩
    · rw [Ending.calls, List.filterMap_append, call?_told, List.append_nil]
      rfl
    · cases hexecute.symm.trans h
    · cases hexecute.symm.trans h
      rfl
    · cases hexecute.symm.trans h
      exact absurd hidle haffected
    · cases hexecute.symm.trans h
      refine ⟨rfl, fun hopen => ?_⟩
      rw [Ending.events, List.filterMap_append, event?_told hopen]
      rfl

end Model

/-! ## Changes -/

/-- The ways to change rows that are there. -/
inductive RowChange where
  | update (id : Value) (row : Row)
  | updateWhere (filter : Filter) (row : Row)
  | increment (id : Value) (column : String) (amount : Int64)
  | delete (id : Value)
  | deleteWhere (filter : Filter)

namespace RowChange

variable {σ : Type} {m : Model} {s : Session σ} {w : RowChange} {observer : Observer}

/-- Changes the rows. -/
def run (w : RowChange) (m : Model) (s : Session σ) : Action σ UInt64 :=
  match w with
  | update id row => m.update s id row
  | updateWhere filter row => m.updateWhere s filter row
  | increment id column amount => m.increment s id column amount
  | delete id => m.delete s id
  | deleteWhere filter => m.deleteWhere s filter

/-- The kind of the write. -/
def kind : RowChange → ChangeKind
  | update _ _ | updateWhere _ _ => .update
  | increment _ _ _ => .increment
  | delete _ | deleteWhere _ => .delete

/-- The filter for the rows that are changed. -/
def filter (w : RowChange) (m : Model) : Filter :=
  match w with
  | update id _ | increment id _ _ | delete id => m.keyed id
  | updateWhere filter _ | deleteWhere filter => filter

/-- The write of the rows. -/
def compiled (w : RowChange) (m : Model) (d : Dialect) : Except Refusal Statement :=
  match w with
  | update id row =>
      Update.build { ({ table := m.table } : Update).setRow row with filter := m.keyed id } d
  | updateWhere filter row =>
      Update.build { ({ table := m.table } : Update).setRow row with filter } d
  | increment id column amount =>
      let update := ({ table := m.table } : Update).increment column (.int amount)
      Update.build { update with filter := m.keyed id } d
  | delete id => Delete.build { table := m.table, filter := m.keyed id } d
  | deleteWhere filter => Delete.build { table := m.table, filter } d

/-- What is recorded of a change without a condition. -/
def skipped (w : RowChange) (m : Model) : LogRecord :=
  match w with
  | update _ _ | updateWhere _ _ | increment _ _ _ => .skippedUpdate m.table
  | delete _ | deleteWhere _ => .skippedDelete m.table

/-- All changes are made alike. -/
theorem run_eq (w : RowChange) (m : Model) (s : Session σ) :
    w.run m s = Action.ofCompiled m.check >>= fun _ =>
      if (w.filter m).isEmpty then Action.log (w.skipped m) >>= fun _ => pure 0
      else m.write s (w.filter m) w.kind (w.compiled m s.dialect) := by
  cases w with
  | update id row => rfl
  | updateWhere filter row => rfl
  | increment id column amount => rfl
  | delete id => rfl
  | deleteWhere filter => rfl

theorem conditionalWrite {d : Dialect} {write : Statement} (hempty : (w.filter m).isEmpty = false)
    (h : w.compiled m d = .ok write) : ConditionalWrite d m.table (w.filter m) write := by
  cases w with
  | update id row => exact Update.conditionalWrite hempty h
  | updateWhere filter row => exact Update.conditionalWrite hempty h
  | increment id column amount => exact Update.conditionalWrite hempty h
  | delete id => exact Delete.conditionalWrite hempty h
  | deleteWhere filter => exact Delete.conditionalWrite hempty h

/-- Rows are read before by the condition that they are written by. -/
theorem exists_read (hcheck : m.check = .ok ()) {d : Dialect} {write : Statement} {filter : Filter}
    (h : ConditionalWrite d m.table filter write) :
    ∃ read, (m.select.filtering fun _ => filter).build = .ok read
      ∧ Model.SameRows d m filter read write := by
  cases h with
  | update hassignments hempty hcompile =>
    exact ⟨_, Model.build_select hcheck hcompile, .update hassignments hempty hcompile, _, hcompile,
      rfl, _, _, rfl⟩
  | delete hempty hcompile =>
    exact ⟨_, Model.build_select hcheck hcompile, .delete hempty hcompile, _, hcompile, rfl,
      _, [], rfl⟩

/-- An observer of a model sees the rows as they were before they changed.  Whatever the
database answers, they are read by the condition that they are written by.  The observer is
told of all of them, in order, if the database says that the write affected any row, and of
none if it affected none or anything failed. -/
theorem reports_preimages (w : RowChange) (s : Session σ) (db : σ)
    (hobserver : m.observer = some observer) :
    m.Reports s observer w.kind (w.filter m) db ((w.run m s).run db) := by
  rw [run_eq]
  -- a model that is refused, a filter without predicates and a write that is refused send nothing
  cases hcheck : m.check with
  | error refusal => exact Model.reports_refused refusal
  | ok _ =>
    rw [Action.run_ofCompiled_ok_bind]
    cases hempty : (w.filter m).isEmpty with
    | true =>
      rw [if_pos rfl]
      have hskipped : ¬ (Effect.logged (w.skipped m)).tells := by
        cases w <;> exact Bool.false_ne_true
      have hreports : m.Reports s observer w.kind (w.filter m) db
          ⟨.ok 0, db, [w.skipped m].map .logged⟩ :=
        Model.reports_unsent (.inr ⟨hempty, rfl⟩) (by simpa using hskipped)
      exact hreports
    | false =>
      rw [if_neg Bool.false_ne_true]
      cases hcompiled : w.compiled m s.dialect with
      | error refusal => exact Model.reports_refused refusal
      | ok write =>
        obtain ⟨read, hread, hsame⟩ := exists_read hcheck (conditionalWrite hempty hcompiled)
        exact (Model.course_write hobserver hread w.kind write db).reports hsame

/-- A table whose rows are watched. -/
def audited : Model := { table := "t", observer := some ⟨"audit", .callback⟩ }

/-- A database that returns a row with a key and one without, and changes both. -/
def twoRows : Script where
  queue := [{ rows := [.ofPairs [("id", .int 7), ("a", .int 1)], .ofPairs [("a", .int 1)]] },
    { outcome := { affected := 2 } }]

/-- A session on that database. -/
def auditSession : Session Script := ⟨Script.driver "sqlite", .sqlite, 100⟩

/-- Rows are changed by what they have in a column. -/
def recolor : RowChange :=
  updateWhere (Filter.empty.whereEq "a" (.int 1)) (.ofPairs [("a", .int 2)])

theorem reports_preimages_twoRows :
    audited.observer = some ⟨"audit", .callback⟩
      ∧ ((recolor.run audited auditSession).run twoRows).calls.map (·.statement.sql)
        = ["SELECT * FROM t WHERE a = ?", "UPDATE \"t\" SET \"a\" = ? WHERE a = ?"]
      ∧ ((recolor.run audited auditSession).run twoRows).result = .ok 2
      ∧ ((recolor.run audited auditSession).run twoRows).events
        = [⟨"t", .update, .int 7, .ofPairs [("id", .int 7), ("a", .int 1)]⟩,
          ⟨"t", .update, .null, .ofPairs [("a", .int 1)]⟩] := by
  have hobserver : audited.observer = some ⟨"audit", .callback⟩ := rfl
  obtain ⟨_, _, _, _, hcalls, hfetch, hanswered⟩ :=
    (reports_preimages recolor auditSession twoRows hobserver).written
      ⟨"UPDATE \"t\" SET \"a\" = ? WHERE a = ?", [.int 2, .int 1]⟩
      (List.mem_cons_of_mem _ List.mem_cons_self)
  cases hcalls
  cases hfetch
  obtain ⟨_, hevents⟩ := hanswered.told _ _ rfl (by decide)
  exact ⟨hobserver, rfl, hanswered.result _ _ rfl, hevents fun hclosed => nomatch hclosed⟩

end RowChange

end BoundSql
