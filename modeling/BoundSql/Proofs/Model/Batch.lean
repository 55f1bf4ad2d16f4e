import BoundSql.Model
import BoundSql.Proofs.Batch.Insert
import BoundSql.Proofs.Session

/-!
# Runs of batches

A batch is written chunk by chunk.  Chunks that the driver accepts are followed by
those behind them (`Model.run_writeChunks_append`).  A chunk that the driver rejects
ends the batch, and so does one that holds a list, which is refused and not sent.
There is no other way to end (`Model.accepted_or_stopped`).
-/

namespace BoundSql

/-! ## Affected rows -/

/-- The rows that some statements affected together, counted in a word. -/
def affectedWord : List Outcome → UInt64
  | [] => 0
  | outcome :: outcomes => outcome.affected + affectedWord outcomes

/-- The rows that some statements affected together. -/
def affectedRows : List Outcome → Nat
  | [] => 0
  | outcome :: outcomes => outcome.affected.toNat + affectedRows outcomes

/-- The count does not wrap if the number is a word. -/
theorem toNat_affectedWord : ∀ {outcomes : List Outcome}, affectedRows outcomes < UInt64.size →
    (affectedWord outcomes).toNat = affectedRows outcomes
  | [], _ => rfl
  | outcome :: outcomes, h => by
      have hsum : outcome.affected.toNat + affectedRows outcomes < UInt64.size := h
      have ih : (affectedWord outcomes).toNat = affectedRows outcomes :=
        toNat_affectedWord (by omega)
      rw [affectedWord, affectedRows, ← ih]
      exact toNat_add_of_lt (by omega)

theorem affectedWord_eq {outcomes : List Outcome} (h : affectedRows outcomes < UInt64.size) :
    affectedWord outcomes = UInt64.ofNat (affectedRows outcomes) := by
  rw [← toNat_affectedWord h, UInt64.ofNat_toNat]

/-! ## Chunks -/

namespace Model

variable {σ : Type} {m : Model} {s : Session σ} {affected : UInt64}

/-- What is done about a chunk that is accepted, besides adding up. -/
def chunkEffects (m : Model) (chunk : Chunk) (outcome : Outcome) : List Effect :=
  [.sent ⟨.execute, chunk.statement⟩, .logged (.executed chunk.statement outcome.affected),
    .logged (.chunkWritten m.table chunk.start chunk.stop outcome.affected)]

/-- What is done about chunks that are accepted one after the other, behind others that
affected some rows. -/
def chunksEffects (m : Model) (affected : UInt64) : List Chunk → List Outcome → List Effect
  | chunk :: chunks, outcome :: outcomes =>
      m.chunkEffects chunk outcome ++ Action.overflow affected outcome.affected
        ++ m.chunksEffects (affected + outcome.affected) chunks outcomes
  | _, _ => []

theorem run_writeChunks_cons {chunk : Chunk} {rest : List Chunk} {db db' : σ} {outcome : Outcome}
    (hscalar : chunk.statement.Scalar)
    (hanswer : s.driver.execute chunk.statement db = (.ok outcome, db')) :
    (m.writeChunks s affected (chunk :: rest)).run db
      = ((m.writeChunks s (affected + outcome.affected) rest).run db').after
          (m.chunkEffects chunk outcome ++ Action.overflow affected outcome.affected) := by
  have hrun := Session.run_execute_ok hscalar hanswer
  rw [writeChunks, Action.run_bind_ok (by rw [hrun]), hrun, Action.run_log_bind,
    Action.run_add_bind, Ending.after_after, Ending.after_after]
  rfl

/-- Chunks that are accepted are followed by those behind them. -/
theorem run_writeChunks_append (rest : List Chunk) : ∀ {before : List Chunk}
    {outcomes : List Outcome} (affected : UInt64) {db db' : σ},
    (∀ chunk ∈ before, chunk.statement.Scalar) →
    s.driver.Accepts db (before.map Chunk.statement) outcomes db' →
    (m.writeChunks s affected (before ++ rest)).run db
      = ((m.writeChunks s (affected + affectedWord outcomes) rest).run db').after
          (m.chunksEffects affected before outcomes)
  | [], _, affected, db, _, _, .done => by
      rw [affectedWord, UInt64.add_zero]
      rfl
  | chunk :: before, outcome :: outcomes, affected, db, _, hscalar, .more hanswer haccepts => by
      have ih := run_writeChunks_append rest (affected + outcome.affected)
        (fun e he => hscalar e (List.mem_cons_of_mem _ he)) haccepts
      rw [List.cons_append, run_writeChunks_cons (hscalar chunk List.mem_cons_self) hanswer, ih,
        Ending.after_after, UInt64.add_assoc]
      rfl

theorem run_writeChunks_rejected {chunk : Chunk} {rest : List Chunk} {db db' : σ}
    {cause : DriverFailure} (hscalar : chunk.statement.Scalar)
    (hanswer : s.driver.execute chunk.statement db = (.error cause, db')) :
    (m.writeChunks s affected (chunk :: rest)).run db
      = ⟨.error (.rejected chunk.statement cause), db', [.sent ⟨.execute, chunk.statement⟩,
          .logged (.rejected chunk.statement cause)]⟩ := by
  have hrun := Session.run_execute_error hscalar hanswer
  rw [writeChunks, Action.run_bind_error (by rw [hrun]), hrun]

theorem run_writeChunks_refused {chunk : Chunk} {rest : List Chunk} {db : σ} {refusal : Refusal}
    (h : Session.checkParams chunk.statement.params = .error refusal) :
    (m.writeChunks s affected (chunk :: rest)).run db = ⟨.error (.refused refusal), db, []⟩ := by
  have hrun : (s.execute chunk.statement).run db = ⟨.error (.refused refusal), db, []⟩ :=
    Session.run_execute_refused h
  rw [writeChunks, Action.run_bind_error (by rw [hrun]), hrun]

/-- Of the effects of chunks that are accepted, what is picked out of those of one chunk. -/
theorem filterMap_chunksEffects {γ : Type} {pick : Effect → Option γ} {f : Chunk → γ}
    (hchunk : ∀ chunk outcome, (m.chunkEffects chunk outcome).filterMap pick = [f chunk])
    (hoverflow : pick .overflowed = none) : ∀ {chunks : List Chunk} {outcomes : List Outcome}
    (affected : UInt64) {db db' : σ},
    s.driver.Accepts db (chunks.map Chunk.statement) outcomes db' →
    (m.chunksEffects affected chunks outcomes).filterMap pick = chunks.map f
  | [], [], _, _, _, .done => rfl
  | chunk :: chunks, outcome :: outcomes, affected, _, _, .more _ haccepts => by
      have ih := filterMap_chunksEffects hchunk hoverflow (affected + outcome.affected) haccepts
      rw [chunksEffects, List.filterMap_append, List.filterMap_append, hchunk,
        Action.filterMap_overflow hoverflow, ih]
      rfl

/-- The statements of chunks that are accepted are sent. -/
theorem executed_chunksEffects {chunks : List Chunk} {outcomes : List Outcome} {db db' : σ}
    (h : s.driver.Accepts db (chunks.map Chunk.statement) outcomes db') :
    (m.chunksEffects affected chunks outcomes).filterMap Effect.executed?
      = chunks.map Chunk.statement :=
  filterMap_chunksEffects (fun _ _ => rfl) rfl affected h

/-- Nothing else is. -/
theorem calls_chunksEffects {chunks : List Chunk} {outcomes : List Outcome} {db db' : σ}
    (h : s.driver.Accepts db (chunks.map Chunk.statement) outcomes db') :
    (m.chunksEffects affected chunks outcomes).filterMap Effect.call?
      = chunks.map fun chunk => ⟨.execute, chunk.statement⟩ :=
  filterMap_chunksEffects (fun _ _ => rfl) rfl affected h

/-- A sum is no word on the way if and only if the last one is none. -/
theorem overflows_chunksEffects : ∀ {chunks : List Chunk} {outcomes : List Outcome}
    (affected : UInt64) {db db' : σ},
    s.driver.Accepts db (chunks.map Chunk.statement) outcomes db' →
    ((m.chunksEffects affected chunks outcomes).any Effect.isOverflow
      ↔ UInt64.size ≤ affected.toNat + affectedRows outcomes)
  | [], [], affected, _, _, .done =>
      iff_of_false Bool.false_ne_true (Nat.not_le_of_lt affected.toNat_lt_size)
  | chunk :: chunks, outcome :: outcomes, affected, _, _, .more _ haccepts => by
      have ih := overflows_chunksEffects (affected + outcome.affected) haccepts
      have hchunk : (m.chunkEffects chunk outcome).any Effect.isOverflow = false := rfl
      rw [chunksEffects, List.any_append, List.any_append, hchunk, Bool.false_or, Bool.or_eq_true,
        Action.any_overflow, ih, affectedRows]
      by_cases hsum : affected.toNat + outcome.affected.toNat < UInt64.size
      · rw [toNat_add_of_lt hsum]
        omega
      · omega

/-! ## Three ends -/

variable {chunks before after : List Chunk} {chunk : Chunk} {outcomes : List Outcome}
  {db db' db'' : σ}

/-- The driver accepts all chunks. -/
theorem run_writeChunks_accepted (m : Model) (hscalar : ∀ e ∈ chunks, e.statement.Scalar)
    (haccepts : s.driver.Accepts db (chunks.map Chunk.statement) outcomes db') :
    (m.writeChunks s affected chunks).run db
      = ⟨.ok (affected + affectedWord outcomes), db',
          m.chunksEffects affected chunks outcomes⟩ := by
  have hrun := run_writeChunks_append (m := m) [] affected hscalar haccepts
  rw [List.append_nil] at hrun
  rw [hrun, writeChunks, Action.run_pure, Ending.after, List.append_nil]

theorem executed_writeChunks_accepted (m : Model) (hscalar : ∀ e ∈ chunks, e.statement.Scalar)
    (haccepts : s.driver.Accepts db (chunks.map Chunk.statement) outcomes db') :
    ((m.writeChunks s affected chunks).run db).executed = chunks.map Chunk.statement := by
  rw [run_writeChunks_accepted m hscalar haccepts, Ending.executed, executed_chunksEffects haccepts]

theorem overflows_writeChunks_accepted (m : Model) (hscalar : ∀ e ∈ chunks, e.statement.Scalar)
    (haccepts : s.driver.Accepts db (chunks.map Chunk.statement) outcomes db') :
    ((m.writeChunks s 0 chunks).run db).overflows ↔ UInt64.size ≤ affectedRows outcomes := by
  rw [run_writeChunks_accepted m hscalar haccepts, Ending.overflows,
    overflows_chunksEffects 0 haccepts, UInt64.toNat_zero, Nat.zero_add]

/-- The driver rejects a chunk behind those that it accepts. -/
theorem run_writeChunks_rejected_after (m : Model) (after : List Chunk)
    {cause : DriverFailure} (hscalar : ∀ e ∈ before, e.statement.Scalar)
    (haccepts : s.driver.Accepts db (before.map Chunk.statement) outcomes db')
    (hchunk : chunk.statement.Scalar)
    (hanswer : s.driver.execute chunk.statement db' = (.error cause, db'')) :
    (m.writeChunks s affected (before ++ chunk :: after)).run db
      = ⟨.error (.rejected chunk.statement cause), db'', m.chunksEffects affected before outcomes
          ++ [.sent ⟨.execute, chunk.statement⟩, .logged (.rejected chunk.statement cause)]⟩ := by
  rw [run_writeChunks_append _ _ hscalar haccepts, run_writeChunks_rejected hchunk hanswer]
  rfl

theorem executed_writeChunks_rejected_after (m : Model) (after : List Chunk)
    {cause : DriverFailure} (hscalar : ∀ e ∈ before, e.statement.Scalar)
    (haccepts : s.driver.Accepts db (before.map Chunk.statement) outcomes db')
    (hchunk : chunk.statement.Scalar)
    (hanswer : s.driver.execute chunk.statement db' = (.error cause, db'')) :
    ((m.writeChunks s affected (before ++ chunk :: after)).run db).executed
      = (before ++ [chunk]).map Chunk.statement := by
  rw [run_writeChunks_rejected_after m after hscalar haccepts hchunk hanswer, Ending.executed,
    List.filterMap_append, executed_chunksEffects haccepts, List.map_append]
  rfl

theorem overflows_writeChunks_rejected_after (m : Model) (after : List Chunk)
    {cause : DriverFailure} (hscalar : ∀ e ∈ before, e.statement.Scalar)
    (haccepts : s.driver.Accepts db (before.map Chunk.statement) outcomes db')
    (hchunk : chunk.statement.Scalar)
    (hanswer : s.driver.execute chunk.statement db' = (.error cause, db'')) :
    ((m.writeChunks s 0 (before ++ chunk :: after)).run db).overflows
      ↔ UInt64.size ≤ affectedRows outcomes := by
  rw [run_writeChunks_rejected_after m after hscalar haccepts hchunk hanswer, Ending.overflows,
    List.any_append, Bool.or_eq_true, overflows_chunksEffects 0 haccepts, UInt64.toNat_zero,
    Nat.zero_add]
  exact or_iff_left Bool.false_ne_true

/-- A list in a chunk behind those that the driver accepts. -/
theorem run_writeChunks_refused_after (m : Model) (after : List Chunk)
    (hscalar : ∀ e ∈ before, e.statement.Scalar)
    (haccepts : s.driver.Accepts db (before.map Chunk.statement) outcomes db')
    (hchunk : ¬ chunk.statement.Scalar) :
    ∃ refusal, (m.writeChunks s affected (before ++ chunk :: after)).run db
      = ⟨.error (.refused refusal), db', m.chunksEffects affected before outcomes⟩ := by
  obtain ⟨refusal, hrefused⟩ := Session.checkParams_eq_error hchunk
  refine ⟨refusal, ?_⟩
  rw [run_writeChunks_append _ _ hscalar haccepts, run_writeChunks_refused hrefused, Ending.after,
    List.append_nil]

/-- Chunks can be sent and accepted up to a last one.  It is the end of them, or it is
rejected, or it holds a list. -/
theorem accepted_or_stopped (s : Session σ) : ∀ (chunks : List Chunk) (db : σ),
    ((∀ e ∈ chunks, e.statement.Scalar) ∧
      ∃ outcomes db', s.driver.Accepts db (chunks.map Chunk.statement) outcomes db')
    ∨ ∃ before chunk after outcomes db', chunks = before ++ chunk :: after
      ∧ (∀ e ∈ before, e.statement.Scalar)
      ∧ s.driver.Accepts db (before.map Chunk.statement) outcomes db'
      ∧ (¬ chunk.statement.Scalar ∨ chunk.statement.Scalar
          ∧ ∃ cause db'', s.driver.execute chunk.statement db' = (.error cause, db''))
  | [], db => Or.inl ⟨fun _ he => absurd he List.not_mem_nil, [], db, .done⟩
  | chunk :: chunks, db => by
      by_cases hchunk : chunk.statement.Scalar
      · cases hanswer : s.driver.execute chunk.statement db with
        | mk answer db' =>
            cases answer with
            | error cause =>
                exact Or.inr ⟨[], chunk, chunks, [], db, rfl,
                  fun _ he => absurd he List.not_mem_nil, .done,
                  Or.inr ⟨hchunk, cause, db', hanswer⟩⟩
            | ok outcome =>
                cases accepted_or_stopped s chunks db' with
                | inl h =>
                    obtain ⟨hscalar, outcomes, db'', haccepts⟩ := h
                    exact Or.inl ⟨List.forall_mem_cons.mpr ⟨hchunk, hscalar⟩,
                      outcome :: outcomes, db'', .more hanswer haccepts⟩
                | inr h =>
                    obtain ⟨before, last, after, outcomes, db'', rfl, hscalar, haccepts, hlast⟩ := h
                    exact Or.inr ⟨chunk :: before, last, after, outcome :: outcomes, db'', rfl,
                      List.forall_mem_cons.mpr ⟨hchunk, hscalar⟩, .more hanswer haccepts, hlast⟩
      · exact Or.inr ⟨[], chunk, chunks, [], db, rfl, fun _ he => absurd he List.not_mem_nil,
          .done, Or.inl hchunk⟩

/-- The driver accepts some of the chunks, and the one behind them holds a list. -/
def RefusesAfter (s : Session σ) (db : σ) (before chunks : List Chunk) : Prop :=
  ∃ chunk after outcomes db', chunks = before ++ chunk :: after
    ∧ (∀ e ∈ before, e.statement.Scalar) ∧ ¬ chunk.statement.Scalar
    ∧ s.driver.Accepts db (before.map Chunk.statement) outcomes db'

/-- Chunks that are refused are refused at a list, behind chunks that were sent. -/
theorem result_writeChunks_refused {refusal : Refusal}
    (h : ((m.writeChunks s affected chunks).run db).result = .error (.refused refusal)) :
    ∃ before, RefusesAfter s db before chunks := by
  rcases accepted_or_stopped s chunks db with ⟨hscalar, outcomes, db', haccepts⟩
    | ⟨before, chunk, after, outcomes, db', rfl, hscalar, haccepts, hstop⟩
  · rw [run_writeChunks_accepted m hscalar haccepts] at h
    cases h
  · rcases hstop with hchunk | ⟨hchunk, cause, db'', hanswer⟩
    · exact ⟨before, chunk, after, outcomes, db', rfl, hscalar, hchunk, haccepts⟩
    · rw [run_writeChunks_rejected_after m after hscalar haccepts hchunk hanswer] at h
      cases h

/-- What was sent then. -/
theorem RefusesAfter.run (h : RefusesAfter s db before chunks) (m : Model) :
    (∃ refusal, ((m.writeChunks s affected chunks).run db).result = .error (.refused refusal))
      ∧ ((m.writeChunks s affected chunks).run db).calls
        = before.map fun chunk => ⟨.execute, chunk.statement⟩ := by
  obtain ⟨chunk, after, outcomes, db', rfl, hscalar, hchunk, haccepts⟩ := h
  obtain ⟨refusal, hrun⟩ := run_writeChunks_refused_after m after hscalar haccepts hchunk
  rw [hrun]
  exact ⟨⟨refusal, rfl⟩, calls_chunksEffects haccepts⟩

/-- Chunks are sent in order, and none is passed over. -/
theorem executed_writeChunks_prefix (m : Model) (s : Session σ) (chunks : List Chunk) (db : σ) :
    ((m.writeChunks s affected chunks).run db).executed <+: chunks.map Chunk.statement := by
  rcases accepted_or_stopped s chunks db with ⟨hscalar, outcomes, db', haccepts⟩
    | ⟨before, chunk, after, outcomes, db', rfl, hscalar, haccepts, hstop⟩
  · exact ⟨[], (List.append_nil _).trans (executed_writeChunks_accepted m hscalar haccepts)⟩
  · rcases hstop with hchunk | ⟨hchunk, cause, db'', hanswer⟩
    · obtain ⟨refusal, hrun⟩ := run_writeChunks_refused_after m after hscalar haccepts hchunk
      rw [hrun, Ending.executed, executed_chunksEffects haccepts]
      exact (List.prefix_append before (chunk :: after)).map Chunk.statement
    · rw [executed_writeChunks_rejected_after m after hscalar haccepts hchunk hanswer,
        List.append_cons before chunk after]
      exact (List.prefix_append (before ++ [chunk]) after).map Chunk.statement

/-! ## Batches -/

theorem check_eq_ok : m.check = .ok ()
    ↔ Text.isBlankText m.table = false ∧ Text.isBlankText m.primaryKey = false := by
  rw [check, ite_error_eq_ok, ite_error_eq_ok, Bool.not_eq_true, Bool.not_eq_true]
  exact ⟨fun h => ⟨h.1, h.2.1⟩, fun h => ⟨h.1, h.2, rfl⟩⟩

/-- A batch that is not well formed is refused before anything is sent. -/
theorem run_runBatch_refused {b : BatchInsert} {refusal : Refusal} (db : σ)
    (h : (m.check >>= fun _ => b.compile s.dialect s.maxParams) = .error refusal) :
    (m.runBatch s b).run db = ⟨.error (.refused refusal), db, []⟩ := by
  rw [runBatch]
  cases hcheck : m.check with
  | error refusal' =>
      rw [hcheck] at h
      cases h
      rfl
  | ok _ =>
      have hcompile : b.compile s.dialect s.maxParams = .error refusal := by
        rw [hcheck] at h
        exact h
      rw [Action.run_ofCompiled_ok_bind, hcompile, Action.run_ofCompiled_error_bind]

/-- A well formed batch is written by its chunks, and a record says that it is done. -/
theorem run_runBatch (db : σ) {b : BatchInsert} {c : ChunkCursor} (hcheck : m.check = .ok ())
    (hcompile : b.compile s.dialect s.maxParams = .ok c) :
    ∃ records : List LogRecord,
      (m.runBatch s b).run db
        = ⟨((m.writeChunks s 0 c.chunks).run db).result,
            ((m.writeChunks s 0 c.chunks).run db).state,
            ((m.writeChunks s 0 c.chunks).run db).effects ++ records.map Effect.logged⟩ := by
  rw [runBatch, hcheck, Action.run_ofCompiled_ok_bind, hcompile, Action.run_ofCompiled_ok_bind]
  cases hresult : ((m.writeChunks s 0 c.chunks).run db).result with
  | ok affected =>
      rw [Action.run_bind_ok hresult]
      exact ⟨[.batchFinished m.table c.plan.totalRows c.plan.chunkCount affected], rfl⟩
  | error failure =>
      rw [Action.run_bind_error hresult]
      refine ⟨[], ?_⟩
      rw [List.map_nil, List.append_nil]

end Model

end BoundSql
