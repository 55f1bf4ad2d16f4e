import BoundSql.Driver.Mysql
import BoundSql.Model
import BoundSql.Proofs.Action.Only
import BoundSql.Proofs.Driver.Keys

/-!
# Inserting a row

A row is inserted, or put in the place of others, and `RowInsert` is the choice between
the two.  The one statement of the call is *answered* if it is compiled, sent and accepted
(`RowInsert.Answered`), and otherwise the call fails and reports nothing.

An answer with a key gives that key to the caller.  An answer without one gives the key
that the connection reported last, if it ever reported any.  So a row that has no key of
its own gets the key of an earlier row, and an observer is told of whatever row is found
by that key.  `RowInsert.earlier_key_iff` says just when this happens.
-/

namespace BoundSql

namespace Model

variable {σ : Type} {m : Model} {s : Session σ} {insert : Insert} {kind : ChangeKind}
  {statement : Statement} {outcome : Outcome} {db db' : σ} {key : Int64}

/-! ## Reports -/

/-- Someone is told of the changes to the table. -/
def Listened (m : Model) : Prop :=
  ∃ observer, m.observer = some observer ∧ observer.kind ≠ .channel false

/-- A report does nothing but tell of the change, if someone listens. -/
theorem run_notify (m : Model) (kind : ChangeKind) (id : Value) (row : Row) (db : σ) :
    ((m.notify kind id row).run db).result = .ok ()
      ∧ ∀ event, event ∈ ((m.notify kind id row).run db).events
        ↔ m.Listened ∧ event = ⟨m.table, kind, id, row⟩ := by
  unfold notify Listened
  cases m.observer with
  | none =>
      refine ⟨rfl, fun event => ?_⟩
      simp [Ending.events]
  | some observer =>
      by_cases hclosed : observer.kind = .channel false
      · simp only [if_pos hclosed]
        refine ⟨rfl, fun event => ?_⟩
        simp [Ending.events, Action.log, Action.emit, Effect.event?, hclosed]
      · simp only [if_neg hclosed]
        refine ⟨rfl, fun event => ?_⟩
        simp [Ending.events, Action.emit, Effect.event?, hclosed]

/-- Nothing is reported. -/
def silent (e : Effect) : Prop := e.event? = none

theorem events_eq_nil {α : Type} {x : Action σ α} (h : x.Only silent) (db : σ) :
    (x.run db).events = [] :=
  List.filterMap_eq_nil_iff.mpr (h db)

theorem silent_find (m : Model) (s : Session σ) (id : Value) : (m.find s id).Only silent :=
  .compiled fun _ _ => .bind (Session.only_query (fun _ => rfl) fun _ _ => rfl) fun _ => .pure _

/-- The report of an inserted row is as good as the search for it. -/
theorem run_notifyInserted (m : Model) (s : Session σ) (kind : ChangeKind) (key : Int64) (db : σ) :
    ((m.notifyInserted s kind key).run db).result
        = ((m.find s (.int key)).run db).result.map (fun _ => ())
      ∧ ∀ event, event ∈ ((m.notifyInserted s kind key).run db).events
        ↔ m.Listened ∧ ∃ row, ((m.find s (.int key)).run db).result = .ok (some row)
          ∧ event = ⟨m.table, kind, .int key, row⟩ := by
  have hsilent : ((m.find s (.int key)).run db).effects.filterMap Effect.event? = [] :=
    events_eq_nil (silent_find m s (.int key)) db
  unfold notifyInserted
  cases hfind : ((m.find s (.int key)).run db).result with
  | error failure =>
      rw [Action.run_bind_error hfind]
      refine ⟨rfl, fun event => ?_⟩
      simp [Ending.events, hsilent]
  | ok found =>
      rw [Action.run_bind_ok hfind]
      cases found with
      | none =>
          refine ⟨rfl, fun event => ?_⟩
          rw [Ending.events_after, hsilent, List.nil_append]
          simp [Ending.events]
      | some row =>
          obtain ⟨hresult, hevents⟩ :=
            run_notify m kind (.int key) row ((m.find s (.int key)).run db).state
          refine ⟨hresult, fun event => ?_⟩
          rw [Ending.events_after, hsilent, List.nil_append, hevents]
          simp

theorem result_notifyInserted_map (m : Model) (s : Session σ) (kind : ChangeKind) (key id : Int64)
    (db : σ) :
    (((m.notifyInserted s kind key).run db).map fun _ => some key).result = .ok (some id)
      ↔ key = id ∧ ∃ found, ((m.find s (.int id)).run db).result = .ok found := by
  rw [Ending.map, (run_notifyInserted m s kind key db).1]
  constructor
  · intro hok
    cases hfind : ((m.find s (.int key)).run db).result with
    | error failure =>
        rw [hfind] at hok
        cases hok
    | ok found =>
        rw [hfind] at hok
        cases hok
        exact ⟨rfl, found, hfind⟩
  · rintro ⟨rfl, found, hfind⟩
    rw [hfind]
    rfl

/-! ## The key of an inserted row -/

/-- What is left to do when the outcome of the insert is known. -/
def afterInsert (m : Model) (s : Session σ) (kind : ChangeKind) (outcome : Outcome) :
    Action σ (Option Int64) := do
  if outcome.affected = 0 then pure none
  else
    let recent ← s.lastInsertId
    match outcome.insertId.orElse fun _ => recent with
    | none => pure none
    | some key =>
        if m.observer.isSome then m.notifyInserted s kind key
        pure (some key)

/-- An insert that is accepted goes on with its outcome. -/
theorem run_insertOne_accepted (hcheck : m.check = .ok ())
    (hbuild : insert.build s.dialect = .ok statement) (hscalar : statement.Scalar)
    (hanswer : s.driver.execute statement db = (.ok outcome, db')) :
    (m.insertOne s insert kind).run db
      = ((m.afterInsert s kind outcome).run db').after
          [.sent ⟨.execute, statement⟩, .logged (.executed statement outcome.affected)] := by
  have hrun := Session.run_execute_ok hscalar hanswer
  rw [insertOne, hcheck, Action.run_ofCompiled_ok_bind, hbuild, Action.run_ofCompiled_ok_bind,
    Action.run_bind_ok (by rw [hrun]), hrun]
  rfl

/-- Without affected rows there is no key. -/
theorem run_afterInsert_ignored (h : outcome.affected = 0) (db : σ) :
    (m.afterInsert s kind outcome).run db = ⟨.ok none, db, []⟩ := by
  rw [afterInsert, if_pos h]
  rfl

/-- The key is that of the outcome, or else the most recent one, and what comes of it is
reported. -/
theorem run_afterInsert (h : outcome.affected ≠ 0) (db : σ) :
    (m.afterInsert s kind outcome).run db
      = match outcome.insertId.or (s.driver.lastInsertId db) with
        | none => ⟨.ok none, db, []⟩
        | some key => if m.observer.isSome
            then ((m.notifyInserted s kind key).run db).map fun _ => some key
            else ⟨.ok (some key), db, []⟩ := by
  rw [afterInsert, if_neg h, Option.or_eq_orElse]
  show ((match outcome.insertId.orElse fun _ => s.driver.lastInsertId db with
    | none => _
    | some key => _ : Action σ (Option Int64)).run db).after [] = _
  cases outcome.insertId.orElse fun _ => s.driver.lastInsertId db with
  | none => rfl
  | some key =>
      by_cases hobserver : m.observer.isSome
      · simp only [if_pos hobserver]
        exact Action.run_bind_pure (m.notifyInserted s kind key) (fun _ => some key) db
      · simp only [if_neg hobserver]
        rfl

end Model

/-- The two ways to insert one row. -/
inductive RowInsert where
  /-- A row that is already there stays, and whether that is a failure is up to the caller. -/
  | insert (ignore : Bool)
  /-- Rows that are already there make room. -/
  | replace

namespace RowInsert

variable {σ : Type} {w : RowInsert} {m : Model} {s : Session σ} {row : Row} {db db' : σ}
  {outcome : Outcome}

/-- Inserts the row. -/
def run (w : RowInsert) (m : Model) (s : Session σ) (row : Row) : Action σ (Option Int64) :=
  match w with
  | insert ignore => m.insert s row ignore
  | replace => m.replace s row

/-- The insert of the row. -/
def built (w : RowInsert) (m : Model) (row : Row) : Insert :=
  match w with
  | insert false => { table := m.table, row }
  | insert true => { table := m.table, row, verb := .insertIgnore }
  | replace => { table := m.table, row, verb := .replace }

/-- The kind of the write. -/
def kind : RowInsert → ChangeKind
  | insert _ => .insert
  | replace => .replace

theorem run_eq_insertOne (w : RowInsert) (m : Model) (s : Session σ) (row : Row) :
    w.run m s row = m.insertOne s (w.built m row) w.kind := by
  cases w with
  | insert ignore => cases ignore <;> rfl
  | replace => rfl

/-- The statement of the call is sent, and answered with an outcome. -/
def Answered (w : RowInsert) (m : Model) (s : Session σ) (row : Row) (db : σ) (outcome : Outcome)
    (db' : σ) : Prop :=
  ∃ statement, m.check = .ok () ∧ (w.built m row).build s.dialect = .ok statement
    ∧ statement.Scalar ∧ s.driver.execute statement db = (.ok outcome, db')

theorem Answered.unique {outcome' : Outcome} {db'' : σ} (h : w.Answered m s row db outcome db')
    (h' : w.Answered m s row db outcome' db'') : outcome' = outcome ∧ db'' = db' := by
  obtain ⟨statement, _, hbuild, _, hanswer⟩ := h
  obtain ⟨statement', _, hbuild', _, hanswer'⟩ := h'
  cases hbuild.symm.trans hbuild'
  cases hanswer.symm.trans hanswer'
  exact ⟨rfl, rfl⟩

/-- A call whose statement is not answered fails.  Either nothing is sent, or the one statement
is rejected. -/
theorem answered_or_unwritten (w : RowInsert) (m : Model) (s : Session σ) (row : Row) (db : σ) :
    (∃ outcome db', w.Answered m s row db outcome db')
      ∨ (∃ refusal, (w.run m s row).run db = ⟨.error (.refused refusal), db, []⟩)
      ∨ ∃ statement cause db', s.driver.execute statement db = (.error cause, db')
        ∧ (w.run m s row).run db = ⟨.error (.rejected statement cause), db',
            [.sent ⟨.execute, statement⟩, .logged (.rejected statement cause)]⟩ := by
  rw [run_eq_insertOne, Model.insertOne]
  cases hcheck : m.check with
  | error refusal => exact .inr (.inl ⟨refusal, rfl⟩)
  | ok _ =>
      rw [Action.run_ofCompiled_ok_bind]
      cases hbuild : (w.built m row).build s.dialect with
      | error refusal => exact .inr (.inl ⟨refusal, rfl⟩)
      | ok statement =>
          rw [Action.run_ofCompiled_ok_bind]
          by_cases hscalar : statement.Scalar
          · cases hanswer : s.driver.execute statement db with
            | mk answer db' =>
                cases answer with
                | ok outcome =>
                    exact .inl ⟨outcome, db', statement, hcheck, hbuild, hscalar, hanswer⟩
                | error cause =>
                    have hrun := Session.run_execute_error hscalar hanswer
                    rw [Action.run_bind_error (by rw [hrun]), hrun]
                    exact .inr (.inr ⟨statement, cause, db', hanswer, rfl⟩)
          · obtain ⟨refusal, hrefused⟩ := Session.checkParams_eq_error hscalar
            have hrun : (s.execute statement).run db = ⟨.error (.refused refusal), db, []⟩ :=
              Session.run_execute_refused hrefused
            rw [Action.run_bind_error (by rw [hrun]), hrun]
            exact .inr (.inl ⟨refusal, rfl⟩)

/-- A call whose statement is not answered reports nothing. -/
theorem answered_or_failed (w : RowInsert) (m : Model) (s : Session σ) (row : Row) (db : σ) :
    (∃ outcome db', w.Answered m s row db outcome db')
      ∨ (∃ failure, ((w.run m s row).run db).result = .error failure)
        ∧ ((w.run m s row).run db).events = [] := by
  rcases w.answered_or_unwritten m s row db with
    hanswered | ⟨refusal, hrun⟩ | ⟨statement, cause, db', _, hrun⟩
  · exact .inl hanswered
  · rw [hrun]
    exact .inr ⟨⟨_, rfl⟩, rfl⟩
  · rw [hrun]
    exact .inr ⟨⟨_, rfl⟩, rfl⟩

/-- An answered call goes on with the outcome, and reports nothing before. -/
theorem Answered.run (h : w.Answered m s row db outcome db') :
    ((w.run m s row).run db).result = ((m.afterInsert s w.kind outcome).run db').result
      ∧ ((w.run m s row).run db).events = ((m.afterInsert s w.kind outcome).run db').events := by
  obtain ⟨statement, hcheck, hbuild, hscalar, hanswer⟩ := h
  rw [run_eq_insertOne, Model.run_insertOne_accepted hcheck hbuild hscalar hanswer]
  exact ⟨rfl, Ending.events_after _ _⟩

/-- The key that an answered call gives to the caller. -/
theorem Answered.result_eq_some (h : w.Answered m s row db outcome db') (id : Int64) :
    ((w.run m s row).run db).result = .ok (some id)
      ↔ outcome.affected ≠ 0 ∧ outcome.insertId.or (s.driver.lastInsertId db') = some id
        ∧ (m.observer = none ∨ ∃ found, ((m.find s (.int id)).run db').result = .ok found) := by
  rw [h.run.1]
  by_cases haffected : outcome.affected = 0
  · rw [Model.run_afterInsert_ignored haffected]
    simp [haffected]
  · rw [Model.run_afterInsert haffected]
    cases outcome.insertId.or (s.driver.lastInsertId db') with
    | none => simp
    | some key =>
        cases hobserver : m.observer with
        | none => simp [haffected]
        | some observer =>
            simp only [Option.isSome_some, if_true, Model.result_notifyInserted_map]
            constructor
            · rintro ⟨rfl, hfound⟩
              exact ⟨haffected, rfl, Or.inr hfound⟩
            · rintro ⟨_, hkey, hnone | hfound⟩
              · cases hnone
              · exact ⟨Option.some.inj hkey, hfound⟩

/-- The reports of an answered call. -/
theorem Answered.mem_events (h : w.Answered m s row db outcome db') (event : ChangeEvent) :
    event ∈ ((w.run m s row).run db).events
      ↔ outcome.affected ≠ 0 ∧ m.Listened ∧ ∃ id found,
          outcome.insertId.or (s.driver.lastInsertId db') = some id
            ∧ ((m.find s (.int id)).run db').result = .ok (some found)
            ∧ event = ⟨m.table, w.kind, .int id, found⟩ := by
  rw [h.run.2]
  by_cases haffected : outcome.affected = 0
  · rw [Model.run_afterInsert_ignored haffected]
    simp [haffected, Ending.events]
  · rw [Model.run_afterInsert haffected]
    cases outcome.insertId.or (s.driver.lastInsertId db') with
    | none => simp [Ending.events]
    | some key =>
        by_cases hobserver : m.observer.isSome
        · have hevents := (Model.run_notifyInserted m s w.kind key db').2 event
          simp only [if_pos hobserver]
          refine Iff.trans hevents ⟨?_, ?_⟩
          · rintro ⟨hlistened, found, hfind, rfl⟩
            exact ⟨haffected, hlistened, key, found, rfl, hfind, rfl⟩
          · rintro ⟨_, hlistened, id, found, hkey, hfind, rfl⟩
            cases hkey
            exact ⟨hlistened, found, hfind, rfl⟩
        · simp only [if_neg hobserver]
          constructor
          · intro hmem
            exact absurd hmem List.not_mem_nil
          · rintro ⟨_, ⟨observer, hsome, _⟩, _⟩
            rw [hsome] at hobserver
            exact absurd rfl hobserver

/-- Another key than that of the outcome is the one that was reported last before. -/
theorem Answered.earlier_key (hkeys : s.driver.RemembersKeys)
    (h : w.Answered m s row db outcome db') (id : Int64) :
    outcome.insertId.or (s.driver.lastInsertId db') = some id ∧ outcome.insertId ≠ some id
      ↔ outcome.insertId = none ∧ s.driver.lastInsertId db = some id := by
  obtain ⟨_, _, _, _, hanswer⟩ := h
  rw [hkeys.accepted hanswer]
  cases outcome.insertId with
  | none => simp
  | some key => simp

/-- What holds of the answer of a call holds of every answer, since there is only one. -/
theorem Answered.forall_iff {p : Outcome → Prop} (h : w.Answered m s row db outcome db') :
    (∀ outcome db', w.Answered m s row db outcome db' → p outcome) ↔ p outcome := by
  constructor
  · intro hall
    exact hall outcome db' h
  · intro hp outcome' db'' h'
    obtain ⟨rfl, _⟩ := h.unique h'
    exact hp

/-- Keys that were not made for the row.  After a history of statements an insert gives a
key that its own outcome does not report just if the outcome reports none, although rows
were affected, and the key is the one that was reported most recently in the history.  An
observer is told of the row that has this key, if there is one. -/
theorem earlier_key_iff (s : Session σ) (hkeys : s.driver.RemembersKeys) (db₀ db : σ)
    (outcomes : List Outcome) (hfresh : s.driver.lastInsertId db₀ = none)
    (hhistory : s.driver.History db₀ outcomes db) (w : RowInsert) (m : Model) (row : Row)
    (id : Int64) :
    (((w.run m s row).run db).result = .ok (some id)
        ∧ (∀ outcome db', w.Answered m s row db outcome db' → outcome.insertId ≠ some id)
      ↔ ∃ outcome db', w.Answered m s row db outcome db' ∧ outcome.affected ≠ 0
        ∧ outcome.insertId = none ∧ recentKey? outcomes = some id
        ∧ (m.observer = none ∨ ∃ found, ((m.find s (.int id)).run db').result = .ok found))
    ∧ ∀ found, ⟨m.table, w.kind, .int id, found⟩ ∈ ((w.run m s row).run db).events
        ∧ (∀ outcome db', w.Answered m s row db outcome db' → outcome.insertId ≠ some id)
      ↔ ∃ outcome db', w.Answered m s row db outcome db' ∧ outcome.affected ≠ 0
        ∧ outcome.insertId = none ∧ recentKey? outcomes = some id
        ∧ m.Listened ∧ ((m.find s (.int id)).run db').result = .ok (some found) := by
  have hrecent : s.driver.lastInsertId db = recentKey? outcomes := by
    rw [hhistory.lastInsertId_eq hkeys, hfresh, Option.or_none]
  rw [← hrecent]
  -- a key that is given or reported comes from an answer, whose own key it is not
  constructor
  · constructor
    · rintro ⟨hresult, hforeign⟩
      rcases w.answered_or_failed m s row db with ⟨outcome, db', hanswered⟩ | ⟨⟨failure, hfailed⟩, _⟩
      · obtain ⟨haffected, hkey, hfound⟩ := (hanswered.result_eq_some id).mp hresult
        obtain ⟨hnone, hlast⟩ :=
          (hanswered.earlier_key hkeys id).mp ⟨hkey, hforeign outcome db' hanswered⟩
        exact ⟨outcome, db', hanswered, haffected, hnone, hlast, hfound⟩
      · rw [hfailed] at hresult
        cases hresult
    · rintro ⟨outcome, db', hanswered, haffected, hnone, hlast, hfound⟩
      obtain ⟨hkey, hforeign⟩ := (hanswered.earlier_key hkeys id).mpr ⟨hnone, hlast⟩
      exact ⟨(hanswered.result_eq_some id).mpr ⟨haffected, hkey, hfound⟩,
        hanswered.forall_iff.mpr hforeign⟩
  · intro found
    constructor
    · rintro ⟨hmem, hforeign⟩
      rcases w.answered_or_failed m s row db with ⟨outcome, db', hanswered⟩ | ⟨_, hsilent⟩
      · obtain ⟨haffected, hlistened, _, _, hkey, hfind, heq⟩ :=
          (hanswered.mem_events _).mp hmem
        cases heq
        obtain ⟨hnone, hlast⟩ :=
          (hanswered.earlier_key hkeys id).mp ⟨hkey, hforeign outcome db' hanswered⟩
        exact ⟨outcome, db', hanswered, haffected, hnone, hlast, hlistened, hfind⟩
      · rw [hsilent] at hmem
        exact absurd hmem List.not_mem_nil
    · rintro ⟨outcome, db', hanswered, haffected, hnone, hlast, hlistened, hfind⟩
      obtain ⟨hkey, hforeign⟩ := (hanswered.earlier_key hkeys id).mpr ⟨hnone, hlast⟩
      exact ⟨(hanswered.mem_events _).mpr ⟨haffected, hlistened, id, found, hkey, hfind, rfl⟩,
        hanswered.forall_iff.mpr hforeign⟩

/-- A server that makes the keys of a list, one after the other, and none at zero. -/
def keyServer : Mysql.Server (List UInt64) where
  execute _ _ keys := (.ok ⟨1, keys.headD 0⟩, keys.tail)
  fetchAll _ _ keys := (.ok [[("id", ⟨.signed, some (5 : Int64)⟩)]], keys)

/-- A session on a connection to that server. -/
def keySession : Session (Connection (List UInt64)) :=
  ⟨(Mysql.backend keyServer).driver, .mysql, 100⟩

/-- A table that makes no keys, and someone who wants to know about its rows. -/
def unkeyed : Model := { table := "log", observer := some ⟨"audit", .callback⟩ }

/-- A row without a key gets the key of an earlier row of another table, and the row that
has this key in its own table is reported as the inserted one. -/
theorem earlier_key_iff_unkeyed :
    keySession.driver.RemembersKeys
      ∧ keySession.driver.lastInsertId { database := [5, 0] } = none
      ∧ keySession.driver.History { database := [5, 0] } [⟨1, some 5⟩] ⟨[0], some 5⟩
      ∧ (((insert false).run unkeyed keySession (.ofPairs [("a", .int 1)])).run
          ⟨[0], some 5⟩).result = .ok (some 5)
      ∧ ⟨"log", .insert, .int 5, .ofPairs [("id", .int 5)]⟩
        ∈ (((insert false).run unkeyed keySession (.ofPairs [("a", .int 1)])).run
            ⟨[0], some 5⟩).events := by
  have hkeys : keySession.driver.RemembersKeys := Backend.remembersKeys _
  have hearlier : keySession.driver.execute ⟨"INSERT INTO `users` (`a`) VALUES (?)", [.int 1]⟩
      { database := [5, 0] } = (.ok ⟨1, some 5⟩, ⟨[0], some 5⟩) := by rfl
  have hhistory : keySession.driver.History { database := [5, 0] } [⟨1, some 5⟩] ⟨[0], some 5⟩ :=
    .accepted .start hearlier
  have hanswered : (insert false).Answered unkeyed keySession (.ofPairs [("a", .int 1)])
      ⟨[0], some 5⟩ ⟨1, none⟩ ⟨[], some 5⟩ :=
    ⟨⟨"INSERT INTO `log` (`a`) VALUES (?)", [.int 1]⟩, by rfl, by rfl, by decide, by rfl⟩
  have hfind : ((unkeyed.find keySession (.int 5)).run ⟨[], some 5⟩).result
      = .ok (some (.ofPairs [("id", .int 5)])) := by rfl
  obtain ⟨hresult, hreport⟩ := earlier_key_iff keySession hkeys { database := [5, 0] } ⟨[0], some 5⟩
    [⟨1, some 5⟩] rfl hhistory (insert false) unkeyed (.ofPairs [("a", .int 1)]) 5
  refine ⟨hkeys, rfl, hhistory, ?_, ?_⟩
  · exact (hresult.mpr ⟨_, _, hanswered, by decide, rfl, rfl, Or.inr ⟨_, hfind⟩⟩).1
  · exact ((hreport _).mpr ⟨_, _, hanswered, by decide, rfl, rfl,
      ⟨_, rfl, fun h => nomatch h⟩, hfind⟩).1

end RowInsert

end BoundSql
