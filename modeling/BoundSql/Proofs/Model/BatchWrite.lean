import BoundSql.Driver.Script
import BoundSql.Proofs.Model.Batch

/-!
# Writing batches

A model writes a batch in one of two ways.  It inserts the rows, or it merges them
into those that are there, and then SQLite is asked for the columns of a conflict
first.  `BatchWrite` is the choice between the two, so that what holds of one batch
holds of the other.
-/

namespace BoundSql

/-- The two ways to write a batch. -/
inductive BatchWrite where
  /-- Rows are inserted.  Those that are already there may be left alone. -/
  | insert (ignore : Bool)
  /-- Rows are merged into those that are there. -/
  | merge (policy : UpsertPolicy)

namespace BatchWrite

variable {σ : Type}

/-- Writes the rows. -/
def run (w : BatchWrite) (m : Model) (s : Session σ) (rows : List Row) : Action σ UInt64 :=
  match w with
  | insert ignore => m.insertBatch s rows ignore
  | merge policy => m.insertUpdateBatch s rows policy

/-- The batch of the rows, given the columns on which rows collide. -/
def batch (w : BatchWrite) (m : Model) (rows : List Row) (conflict : List String) : BatchInsert :=
  match w with
  | insert false => { table := m.table, rows }
  | insert true => { table := m.table, rows, mode := .insertIgnore }
  | merge policy => { table := m.table, rows, mode := .upsert policy, conflictColumns := conflict }

/-- Asks for the columns on which rows collide, if the rows are merged. -/
def lookup (w : BatchWrite) (m : Model) (s : Session σ) : Action σ (List String) :=
  match w with
  | insert _ => pure []
  | merge _ => m.conflictColumns s

/-- The database is asked before the batch is sent. -/
def Asks (w : BatchWrite) (d : Dialect) : Prop :=
  match w, d with
  | merge _, .sqlite => True
  | _, _ => False

variable {w : BatchWrite} {m : Model} {s : Session σ} {rows : List Row} {db : σ}

theorem rows_batch (w : BatchWrite) (m : Model) (rows : List Row) (conflict : List String) :
    (w.batch m rows conflict).rows = rows := by
  cases w with
  | insert ignore => cases ignore <;> rfl
  | merge policy => rfl

theorem table_batch (w : BatchWrite) (m : Model) (rows : List Row) (conflict : List String) :
    (w.batch m rows conflict).table = m.table := by
  cases w with
  | insert ignore => cases ignore <;> rfl
  | merge policy => rfl

/-- The columns of a batch do not depend on those of a conflict. -/
theorem columns_batch (conflict conflict' : List String) :
    (w.batch m rows conflict).columns = (w.batch m rows conflict').columns := by
  cases w with
  | insert ignore => cases ignore <;> rfl
  | merge policy => rfl

/-! ## The question for the columns of a conflict -/

/-- A database that is asked gets one query, and there is no refusal. -/
theorem run_lookup_asks (m : Model) (db : σ) (h : w.Asks s.dialect) :
    ∃ statement record, ((w.lookup m s).run db).effects
        = [.sent ⟨.fetchAll, statement⟩, .logged record]
      ∧ ∀ refusal, ((w.lookup m s).run db).result ≠ .error (.refused refusal) := by
  cases w with
  | insert ignore => cases h
  | merge policy =>
      cases hdialect : s.dialect with
      | mysql =>
          rw [hdialect] at h
          cases h
      | sqlite =>
          obtain ⟨statement, hquery, hscalar⟩ : ∃ statement : Statement,
              Dialect.sqlite.conflictColumnsQuery m.table = some statement
                ∧ ∀ v ∈ statement.params, v.isScalar := by
            refine ⟨_, rfl, fun v hv => ?_⟩
            cases List.mem_singleton.mp hv
            rfl
          have hlookup : (merge policy).lookup m s = s.fetchAll statement >>= fun rows =>
              pure (s.dialect.conflictColumns rows m.primaryKey) := by
            rw [lookup, Model.conflictColumns, hdialect, hquery]
          rw [hlookup, Action.run_bind_pure]
          cases hanswer : s.driver.fetchAll statement db with
          | mk answer db' =>
              cases answer with
              | ok rows =>
                  rw [Session.run_fetchAll_ok hscalar hanswer]
                  exact ⟨_, _, rfl, fun refusal hr => nomatch hr⟩
              | error cause =>
                  rw [Session.run_fetchAll_error hscalar hanswer]
                  exact ⟨_, _, rfl, fun refusal hr => nomatch hr⟩

/-- Nothing happens if the database is not asked. -/
theorem run_lookup_of_not_asks (h : ¬ w.Asks s.dialect) :
    (w.lookup m s).run db = ⟨.ok [], db, []⟩ := by
  cases w with
  | insert ignore => rfl
  | merge policy =>
      cases hdialect : s.dialect with
      | mysql =>
          rw [lookup, Model.conflictColumns, hdialect]
          rfl
      | sqlite => exact absurd (hdialect ▸ trivial) h

/-- The question reads, and does not write. -/
theorem executed_lookup : ((w.lookup m s).run db).executed = [] := by
  by_cases hasks : w.Asks s.dialect
  · obtain ⟨statement, record, heffects, _⟩ := run_lookup_asks m db hasks
    rw [Ending.executed, heffects]
    rfl
  · rw [run_lookup_of_not_asks hasks]
    rfl

theorem calls_lookup (m : Model) (db : σ) :
    ((w.lookup m s).run db).calls ≠ [] ↔ w.Asks s.dialect := by
  by_cases hasks : w.Asks s.dialect
  · obtain ⟨statement, record, heffects, _⟩ := run_lookup_asks m db hasks
    rw [Ending.calls, heffects]
    exact ⟨fun _ => hasks, fun _ h => nomatch h⟩
  · rw [run_lookup_of_not_asks hasks]
    exact ⟨fun h => absurd rfl h, fun h => absurd h hasks⟩

/-- It adds nothing up. -/
theorem overflows_lookup : ((w.lookup m s).run db).overflows = false := by
  by_cases hasks : w.Asks s.dialect
  · obtain ⟨statement, record, heffects, _⟩ := run_lookup_asks m db hasks
    rw [Ending.overflows, heffects]
    rfl
  · rw [run_lookup_of_not_asks hasks]
    rfl

theorem result_lookup_ne_refused (refusal : Refusal) :
    ((w.lookup m s).run db).result ≠ .error (.refused refusal) := by
  by_cases hasks : w.Asks s.dialect
  · obtain ⟨_, _, _, hresult⟩ := run_lookup_asks m db hasks
    exact hresult refusal
  · rw [run_lookup_of_not_asks hasks]
    exact fun h => nomatch h

/-! ## Runs -/

/-- Rows that are well formed are written behind the question. -/
theorem run_of_columns {conflict columns : List String}
    (hcolumns : (w.batch m rows conflict).columns = .ok columns) (s : Session σ) (db : σ) :
    (w.run m s rows).run db
      = (w.lookup m s >>= fun conflict => m.runBatch s (w.batch m rows conflict)).run db := by
  cases w with
  | insert ignore => cases ignore <;> rfl
  | merge policy =>
      have hok : (({ table := m.table, rows } : BatchInsert).upsert policy).columns = .ok columns :=
        hcolumns
      rw [run, Model.insertUpdateBatch, hok, Action.run_ofCompiled_ok_bind]
      rfl

/-- A question that is answered is followed by the batch. -/
theorem run_of_lookup_ok {conflict columns : List String}
    (hcolumns : (w.batch m rows conflict).columns = .ok columns)
    (hlookup : ((w.lookup m s).run db).result = .ok conflict) :
    (w.run m s rows).run db
      = ((m.runBatch s (w.batch m rows conflict)).run ((w.lookup m s).run db).state).after
          ((w.lookup m s).run db).effects := by
  rw [run_of_columns hcolumns, Action.run_bind_ok hlookup]

/-- A batch that compiles ends as its chunks do, sends their statements behind the
question, and adds up what they add up. -/
theorem run_written {conflict : List String} {c : ChunkCursor} (hcheck : m.check = .ok ())
    (hlookup : ((w.lookup m s).run db).result = .ok conflict)
    (hcompile : (w.batch m rows conflict).compile s.dialect s.maxParams = .ok c) :
    ((w.run m s rows).run db).result
        = ((m.writeChunks s 0 c.chunks).run ((w.lookup m s).run db).state).result
      ∧ ((w.run m s rows).run db).executed
        = ((m.writeChunks s 0 c.chunks).run ((w.lookup m s).run db).state).executed
      ∧ ((w.run m s rows).run db).calls = ((w.lookup m s).run db).calls
          ++ ((m.writeChunks s 0 c.chunks).run ((w.lookup m s).run db).state).calls
      ∧ ((w.run m s rows).run db).overflows
        = ((m.writeChunks s 0 c.chunks).run ((w.lookup m s).run db).state).overflows := by
  obtain ⟨columns, hcolumns, _⟩ := BatchInsert.compile_eq_ok hcompile
  have hrun := run_of_lookup_ok hcolumns hlookup
  have hasked : ((w.lookup m s).run db).effects.filterMap Effect.executed? = [] := executed_lookup
  obtain ⟨records, hbatch⟩ := Model.run_runBatch ((w.lookup m s).run db).state hcheck hcompile
  have hexecuted : (records.map Effect.logged).filterMap Effect.executed? = [] :=
    Effect.filterMap_logged (fun _ => rfl) records
  have hcalls : (records.map Effect.logged).filterMap Effect.call? = [] :=
    Effect.filterMap_logged (fun _ => rfl) records
  have hnone : ((w.lookup m s).run db).effects.any Effect.isOverflow = false := overflows_lookup
  have hrecords : (records.map Effect.logged).any Effect.isOverflow = false :=
    List.any_eq_false.mpr fun effect heffect => by
      obtain ⟨record, _, rfl⟩ := List.mem_map.mp heffect
      exact Bool.false_ne_true
  rw [hrun, hbatch]
  refine ⟨rfl, ?_, ?_, ?_⟩
  · rw [Ending.executed_after, hasked, List.nil_append, Ending.executed, List.filterMap_append,
      hexecuted, List.append_nil]
    rfl
  · rw [Ending.calls_after, Ending.calls, Ending.calls, List.filterMap_append, hcalls,
      List.append_nil]
    rfl
  · rw [Ending.overflows_after, hnone, Bool.false_or, Ending.overflows, List.any_append, hrecords,
      Bool.or_false]
    rfl

/-- A batch that compiles is sent chunk by chunk, in order, and each statement keeps to
both ceilings.  If the driver accepts all chunks, the result is the number of rows that
it affected.  If it rejects one, that one is the last that is sent, and the failure
tells its statement.  A sum is no word on the way if and only if the number of rows that
the accepted chunks affected is none. -/
theorem run_sends_chunks (driver : Driver σ) (requested : UInt64) (db₀ : σ) (s : Session σ)
    (hopened : ((Session.make driver requested).run db₀).result = .ok s) (m : Model)
    (htable : Text.isBlankText m.table = false) (hkey : Text.isBlankText m.primaryKey = false)
    (w : BatchWrite) (rows : List Row) (hmem : RowsInMemory rows)
    (hscalar : ∀ r ∈ rows, ∀ v ∈ r.values, v.isScalar) (db : σ) (conflict : List String)
    (hlookup : ((w.lookup m s).run db).result = .ok conflict) (c : ChunkCursor)
    (hcompile : (w.batch m rows conflict).compile s.dialect s.maxParams = .ok c) :
    let asked := ((w.lookup m s).run db).state
    let ending := (w.run m s rows).run db
    ending.executed <+: c.chunks.map Chunk.statement
      ∧ (∀ statement ∈ ending.executed,
          statement.params.length ≤ min requested.toNat s.dialect.maxBindParams)
      ∧ (∀ outcomes db', driver.Accepts asked (c.chunks.map Chunk.statement) outcomes db' →
          ending.executed = c.chunks.map Chunk.statement
            ∧ (affectedRows outcomes < UInt64.size →
                ending.result = .ok (UInt64.ofNat (affectedRows outcomes)))
            ∧ (ending.overflows ↔ UInt64.size ≤ affectedRows outcomes))
      ∧ ∀ before chunk after outcomes db' db'' cause, c.chunks = before ++ chunk :: after →
          driver.Accepts asked (before.map Chunk.statement) outcomes db' →
          driver.execute chunk.statement db' = (.error cause, db'') →
          ending.executed = (before ++ [chunk]).map Chunk.statement
            ∧ ending.result = .error (.rejected chunk.statement cause)
            ∧ (ending.overflows ↔ UInt64.size ≤ affectedRows outcomes)
            ∧ (Failure.rejected chunk.statement cause).message
              = cause.report ++ "; sql: " ++ Text.squeeze chunk.statement.sql
                  ++ "; params: " ++ chunk.statement.paramsText := by
  intro asked ending
  obtain ⟨rfl, _, hmax⟩ := Session.result_make hopened
  have hcheck : m.check = .ok () := Model.check_eq_ok.mpr ⟨htable, hkey⟩
  rw [← rows_batch w m rows conflict] at hmem hscalar
  have hchunks : ∀ chunk ∈ c.chunks, chunk.statement.Scalar :=
    BatchInsert.scalar_chunks hmem hcompile hscalar
  obtain ⟨hresult, hexecuted, _, hoverflows⟩ := run_written hcheck hlookup hcompile
  have horder : ending.executed <+: c.chunks.map Chunk.statement :=
    hexecuted ▸ Model.executed_writeChunks_prefix m s c.chunks asked
  refine ⟨horder, ?_, ?_, ?_⟩
  · intro statement hstatement
    obtain ⟨chunk, hchunk, rfl⟩ := List.mem_map.mp (horder.subset hstatement)
    have hle := BatchInsert.length_params_le hmem hcompile chunk hchunk
    rw [hmax, toNat_min, Session.toNat_maxBindParams] at hle
    exact hle
  · intro outcomes db' haccepts
    refine ⟨hexecuted.trans (Model.executed_writeChunks_accepted m hchunks haccepts), ?_, ?_⟩
    · intro hsum
      rw [hresult, Model.run_writeChunks_accepted m hchunks haccepts, affectedWord_eq hsum,
        UInt64.zero_add]
    · rw [hoverflows, Model.overflows_writeChunks_accepted m hchunks haccepts]
  · intro before chunk after outcomes db' db'' cause hsplit haccepts hanswer
    rw [hsplit] at hchunks hresult hexecuted hoverflows
    have hbefore : ∀ e ∈ before, e.statement.Scalar := fun e he =>
      hchunks e (List.mem_append_left _ he)
    have hchunk : chunk.statement.Scalar :=
      hchunks chunk (List.mem_append_right _ List.mem_cons_self)
    refine ⟨hexecuted.trans (Model.executed_writeChunks_rejected_after m after hbefore haccepts
      hchunk hanswer), ?_, ?_, rfl⟩
    · rw [hresult, Model.run_writeChunks_rejected_after m after hbefore haccepts hchunk hanswer]
    · rw [hoverflows,
        Model.overflows_writeChunks_rejected_after m after hbefore haccepts hchunk hanswer]

/-- A database that takes a question and one chunk, and is full then. -/
def fullDisk : Script where
  queue := [{}, { outcome := { affected := 2 } }, { failure := some { message := "disk is full" } }]

/-- A session that may bind four values in a statement. -/
def fourParams : Session Script := ⟨Script.driver "sqlite", .sqlite, 4⟩

/-- The second column is overwritten. -/
def overwrite : BatchWrite := .merge { updated := ["b"] }

open BatchInsert (threeRows)

/-- Three rows are merged in two chunks.  The first is written, and the second is the one
that the failure tells. -/
theorem run_sends_chunks_fullDisk :
    ((Session.make (Script.driver "sqlite") 4).run fullDisk).result = .ok fourParams
      ∧ RowsInMemory threeRows.rows
      ∧ ((overwrite.run { table := "t" } fourParams threeRows.rows).run fullDisk).executed.map
          Statement.params = [[.int 1, .text "x", .int 2, .null], [.int 3, .text "?"]]
      ∧ ∃ failure,
          ((overwrite.run { table := "t" } fourParams threeRows.rows).run fullDisk).result
            = .error failure
          ∧ failure.message =
            "disk is full; sql: INSERT INTO \"t\" (\"a\", \"b\") VALUES (?, ?) " ++
            "ON CONFLICT(\"id\") DO UPDATE SET \"b\" = excluded.\"b\"; params: [3,\"?\"]" := by
  have hopened : ((Session.make (Script.driver "sqlite") 4).run fullDisk).result
      = .ok fourParams := by rfl
  have hmem : RowsInMemory threeRows.rows := ⟨by decide, by decide +kernel⟩
  have hscalar : ∀ r ∈ threeRows.rows, ∀ v ∈ r.values, v.isScalar := by decide +kernel
  have hlookup : ((overwrite.lookup { table := "t" } fourParams).run fullDisk).result
      = .ok ["id"] := by rfl
  have hcompile : (overwrite.batch { table := "t" } threeRows.rows ["id"]).compile .sqlite 4
      = .ok ⟨(overwrite.batch { table := "t" } threeRows.rows ["id"]).frame .sqlite ["a", "b"],
          ⟨3, 2, 2⟩, 0, threeRows.rows⟩ := by rfl
  obtain ⟨_, _, _, hrejected⟩ := run_sends_chunks (Script.driver "sqlite") 4 fullDisk fourParams
    hopened { table := "t" } (by decide) (by decide) overwrite threeRows.rows hmem hscalar fullDisk
    ["id"] hlookup _ hcompile
  obtain ⟨hexecuted, hresult, _⟩ := hrejected [_] _ [] [{ affected := 2 }] _ _ _ rfl
    (.more rfl .done) rfl
  refine ⟨hopened, hmem, ?_, _, hresult, ?_⟩
  · rw [hexecuted]
    rfl
  · decide +kernel

end BatchWrite

end BoundSql
