import BoundSql.Driver.Script
import BoundSql.Proofs.Model.Reading
import BoundSql.Proofs.Model.RowInsert

/-!
# Inserts that fail behind the write

When a model is observed the row that was inserted is read back by its key.  The driver may
reject this query although it accepted the insert, and then the call fails, the row stays, and
its key is lost.  `RowInsert.failed_after_writing_iff` says that there is no other way for a
call to fail behind an insert that was accepted, and that an insert that was accepted gives
its key otherwise.
-/

namespace BoundSql

namespace Model

variable {σ : Type} {m : Model} {s : Session σ} {kind : ChangeKind} {key : Int64} {db db' : σ}

/-- A row that cannot be read back ends its report. -/
theorem run_notifyInserted_rejected {cause : DriverFailure} (hcheck : m.check = .ok ())
    (hanswer : s.driver.fetchAll (m.lookup key) db = (.error cause, db')) :
    (m.notifyInserted s kind key).run db
      = ⟨.error (.rejected (m.lookup key) cause), db',
          [.sent ⟨.fetchAll, m.lookup key⟩, .logged (.rejected (m.lookup key) cause)]⟩ := by
  have hrun : (m.find s (.int key)).run db = _ := run_find hcheck key db
  rw [Session.run_fetchAll_error (scalar_lookup m key) hanswer] at hrun
  rw [notifyInserted, Action.run_bind_error (by rw [hrun]; rfl), hrun]
  rfl

/-- Whether or not there is a row to read back, the report succeeds if the query does. -/
theorem result_notifyInserted_ok {rows : List Row} (hcheck : m.check = .ok ())
    (hanswer : s.driver.fetchAll (m.lookup key) db = (.ok rows, db')) :
    ((m.notifyInserted s kind key).run db).result = .ok () := by
  rw [(run_notifyInserted m s kind key db).1, run_find hcheck,
    Session.run_fetchAll_ok (scalar_lookup m key) hanswer]
  rfl

end Model

namespace RowInsert

variable {σ : Type} {w : RowInsert} {m : Model} {s : Session σ} {row : Row} {outcome : Outcome}
  {db db' : σ}

/-- The key that belongs to an outcome, which leaves the connection in some state. -/
def key? (s : Session σ) (outcome : Outcome) (db : σ) : Option Int64 :=
  if outcome.affected = 0 then none else outcome.insertId.or (s.driver.lastInsertId db)

/-- Someone wants to know about the row that was inserted, and the query for it is rejected. -/
def Unread (m : Model) (s : Session σ) (outcome : Outcome) (db : σ) (key : Int64)
    (cause : DriverFailure) : Prop :=
  m.observer.isSome ∧ key? s outcome db = some key
    ∧ ∃ db', s.driver.fetchAll (m.lookup key) db = (.error cause, db')

/-- There is one key to look up, and one answer. -/
theorem Unread.unique {key key' : Int64} {cause cause' : DriverFailure}
    (h : Unread m s outcome db key cause) (h' : Unread m s outcome db key' cause') :
    (key, cause) = (key', cause') := by
  obtain ⟨_, hkey, _, hanswer⟩ := h
  obtain ⟨_, hkey', _, hanswer'⟩ := h'
  cases hkey.symm.trans hkey'
  cases hanswer.symm.trans hanswer'
  rfl

/-- Behind an insert that was accepted, a call fails if the row is not read back, and gives the
key of the outcome otherwise. -/
theorem result_afterInsert (hcheck : m.check = .ok ()) (kind : ChangeKind) (outcome : Outcome)
    (db : σ) :
    ((m.afterInsert s kind outcome).run db).result = .ok (key? s outcome db)
        ∧ (∀ key cause, ¬ Unread m s outcome db key cause)
      ∨ ∃ key cause db', Unread m s outcome db key cause
        ∧ (m.afterInsert s kind outcome).run db
          = ⟨.error (.rejected (m.lookup key) cause), db',
              [.sent ⟨.fetchAll, m.lookup key⟩, .logged (.rejected (m.lookup key) cause)]⟩ := by
  unfold Unread key?
  by_cases haffected : outcome.affected = 0
  · rw [Model.run_afterInsert_ignored haffected, if_pos haffected]
    exact .inl ⟨rfl, fun key cause hunread => nomatch hunread.2.1⟩
  · have hrun : (m.afterInsert s kind outcome).run db = _ := Model.run_afterInsert haffected db
    rw [if_neg haffected]
    cases hkey : outcome.insertId.or (s.driver.lastInsertId db) with
    | none =>
        rw [hkey] at hrun
        rw [hrun]
        exact .inl ⟨rfl, fun key cause hunread => nomatch hunread.2.1⟩
    | some key =>
        simp only [hkey] at hrun
        by_cases hobserver : m.observer.isSome
        · rw [if_pos hobserver] at hrun
          cases hanswer : s.driver.fetchAll (m.lookup key) db with
          | mk answer db' =>
              cases answer with
              | ok rows =>
                  rw [hrun, Ending.map, Model.result_notifyInserted_ok hcheck hanswer]
                  refine .inl ⟨rfl, ?_⟩
                  rintro _ cause ⟨_, hsome, _, hrejected⟩
                  cases hsome
                  cases hanswer.symm.trans hrejected
              | error cause =>
                  rw [hrun, Model.run_notifyInserted_rejected hcheck hanswer]
                  exact .inr ⟨key, cause, db', ⟨hobserver, rfl, db', hanswer⟩, rfl⟩
        · rw [if_neg hobserver] at hrun
          rw [hrun]
          exact .inl ⟨rfl, fun key cause hunread => absurd hunread.1 hobserver⟩

/-- An insert that was accepted has been sent, and what is left to do follows. -/
theorem Answered.exists_run (h : w.Answered m s row db outcome db') :
    ∃ statement, (w.built m row).build s.dialect = .ok statement
      ∧ (w.run m s row).run db = ((m.afterInsert s w.kind outcome).run db').after
          [.sent ⟨.execute, statement⟩, .logged (.executed statement outcome.affected)] := by
  obtain ⟨statement, hcheck, hbuild, hscalar, hanswer⟩ := h
  refine ⟨statement, hbuild, ?_⟩
  rw [run_eq_insertOne, Model.run_insertOne_accepted hcheck hbuild hscalar hanswer]

/-- How a call ends behind an insert that was accepted. -/
theorem Answered.given_or_unread (h : w.Answered m s row db outcome db') :
    ((w.run m s row).run db).result = .ok (key? s outcome db')
        ∧ (∀ key cause, ¬ Unread m s outcome db' key cause)
      ∨ ∃ statement key cause, Unread m s outcome db' key cause
        ∧ (w.built m row).build s.dialect = .ok statement
        ∧ ((w.run m s row).run db).result = .error (.rejected (m.lookup key) cause)
        ∧ ((w.run m s row).run db).calls
          = [⟨.execute, statement⟩, ⟨.fetchAll, m.lookup key⟩]
        ∧ ((w.run m s row).run db).events = [] := by
  obtain ⟨statement, hbuild, hrun⟩ := h.exists_run
  obtain ⟨_, hcheck, _⟩ := h
  rcases result_afterInsert (s := s) hcheck w.kind outcome db' with
    ⟨hgiven, hread⟩ | ⟨key, cause, db'', hunread, hfailed⟩
  · exact .inl ⟨by rw [hrun]; exact hgiven, hread⟩
  · rw [hrun, hfailed]
    exact .inr ⟨statement, key, cause, hunread, hbuild, rfl, rfl, rfl⟩

/-- There is one way for an insert to fail although it was accepted: someone observes the
model, and the driver rejects the query for the row with the key that was made.  The insert
was sent, then the query, and nothing else, so the row stays; and nothing is reported.
Otherwise an insert that was accepted gives its key, and one that was not accepted fails, and
all that was sent was rejected. -/
theorem failed_after_writing_iff (w : RowInsert) (m : Model) (s : Session σ) (row : Row) (db : σ) :
    (∀ failure, ((w.run m s row).run db).result = .error failure
          ∧ (∃ outcome db', w.Answered m s row db outcome db')
        ↔ ∃ outcome db' key cause, w.Answered m s row db outcome db'
          ∧ Unread m s outcome db' key cause ∧ failure = .rejected (m.lookup key) cause)
      ∧ (∀ outcome db' key cause, w.Answered m s row db outcome db' →
          Unread m s outcome db' key cause →
          (∃ statement, (w.built m row).build s.dialect = .ok statement
            ∧ ((w.run m s row).run db).calls
              = [⟨.execute, statement⟩, ⟨.fetchAll, m.lookup key⟩])
          ∧ ((w.run m s row).run db).events = [])
      ∧ (∀ outcome db', w.Answered m s row db outcome db' →
          (∀ key cause, ¬ Unread m s outcome db' key cause) →
          ((w.run m s row).run db).result = .ok (key? s outcome db'))
      ∧ ((¬ ∃ outcome db', w.Answered m s row db outcome db') →
          (∃ failure, ((w.run m s row).run db).result = .error failure)
            ∧ ∀ call ∈ ((w.run m s row).run db).calls,
                call.kind = .execute ∧ ∃ cause db',
                  s.driver.execute call.statement db = (.error cause, db')) := by
  refine ⟨fun failure => ⟨?_, ?_⟩, ?_, ?_, ?_⟩
  · rintro ⟨hfailed, outcome, db', hanswered⟩
    rcases hanswered.given_or_unread with ⟨hgiven, _⟩ | ⟨_, key, cause, hunread, _, hresult, _⟩
    · cases hgiven.symm.trans hfailed
    · cases hresult.symm.trans hfailed
      exact ⟨outcome, db', key, cause, hanswered, hunread, rfl⟩
  · rintro ⟨outcome, db', key, cause, hanswered, hunread, rfl⟩
    rcases hanswered.given_or_unread with ⟨_, hread⟩ | ⟨_, key', cause', hunread', _, hresult, _⟩
    · exact absurd hunread (hread key cause)
    · cases hunread.unique hunread'
      exact ⟨hresult, outcome, db', hanswered⟩
  · intro outcome db' key cause hanswered hunread
    rcases hanswered.given_or_unread with
      ⟨_, hread⟩ | ⟨statement, key', cause', hunread', hbuild, _, hcalls, hevents⟩
    · exact absurd hunread (hread key cause)
    · cases hunread.unique hunread'
      exact ⟨⟨statement, hbuild, hcalls⟩, hevents⟩
  · intro outcome db' hanswered hread
    rcases hanswered.given_or_unread with ⟨hgiven, _⟩ | ⟨_, key, cause, hunread, _⟩
    · exact hgiven
    · exact absurd hunread (hread key cause)
  · intro hunanswered
    rcases w.answered_or_unwritten m s row db with
      hanswered | ⟨refusal, hrun⟩ | ⟨statement, cause, db', hanswer, hrun⟩
    · exact absurd hanswered hunanswered
    · rw [hrun]
      exact ⟨⟨_, rfl⟩, fun call hcall => absurd hcall List.not_mem_nil⟩
    · rw [hrun]
      refine ⟨⟨_, rfl⟩, fun call hcall => ?_⟩
      cases List.mem_singleton.mp hcall
      exact ⟨rfl, cause, db', hanswer⟩

/-- A database that accepts an insert, and is busy when the row is read back. -/
def busyReader : Script where
  queue := [{ outcome := { affected := 1, insertId := some 5 } },
    { failure := some { message := "busy" } }]

/-- A session on that database. -/
def readerSession : Session Script := ⟨Script.driver "sqlite", .sqlite, 100⟩

/-- The row is there and has the key five, but the caller is told of a failure. -/
theorem failed_after_writing_iff_busy :
    (insert false).Answered unkeyed readerSession (.ofPairs [("a", .int 1)]) busyReader
        ⟨1, some 5⟩ { queue := [{ failure := some { message := "busy" } }] }
      ∧ (((insert false).run unkeyed readerSession (.ofPairs [("a", .int 1)])).run
          busyReader).result
        = .error (.rejected ⟨"SELECT * FROM log WHERE id = ? LIMIT 1", [.int 5]⟩
            { message := "busy" }) := by
  have hanswered : (insert false).Answered unkeyed readerSession (.ofPairs [("a", .int 1)])
      busyReader ⟨1, some 5⟩ { queue := [{ failure := some { message := "busy" } }] } :=
    ⟨⟨"INSERT INTO \"log\" (\"a\") VALUES (?)", [.int 1]⟩, by rfl, by rfl, by decide, by rfl⟩
  have hunread : Unread unkeyed readerSession ⟨1, some 5⟩
      { queue := [{ failure := some { message := "busy" } }] } 5 { message := "busy" } :=
    ⟨rfl, rfl, {}, by rfl⟩
  obtain ⟨hfails, _⟩ := failed_after_writing_iff (insert false) unkeyed readerSession
    (.ofPairs [("a", .int 1)]) busyReader
  exact ⟨hanswered, ((hfails _).mpr ⟨_, _, 5, _, hanswered, hunread, rfl⟩).1⟩

end RowInsert

end BoundSql
