import BoundSql.Proofs.Model.BatchWrite

/-!
# Refusals of batches

A batch whose rows are not well formed is refused before anything is sent
(`BatchWrite.run_of_columns_error`).  Whatever is checked later may be refused behind
statements that were sent: the primary key and the width of the rows behind the
question for the columns of a conflict, and a list behind the chunks in front of it.
`BatchWrite.refused_after_sending_iff` says that there are no other cases.
-/

namespace BoundSql

namespace BatchWrite

variable {σ : Type} {w : BatchWrite} {m : Model} {s : Session σ} {rows : List Row} {db : σ}

/-- Rows that are not well formed are refused before the question. -/
theorem run_of_columns_error (s : Session σ) (db : σ) {refusal : Refusal}
    (h : (w.batch m rows []).columns = .error refusal) :
    ∃ refusal', (w.run m s rows).run db = ⟨.error (.refused refusal'), db, []⟩ := by
  have hcompile : (w.batch m rows []).compile s.dialect s.maxParams = .error refusal := by
    rw [BatchInsert.compile_eq, h]
    rfl
  cases w with
  | merge policy =>
      have hrefused : (({ table := m.table, rows } : BatchInsert).upsert policy).columns
          = .error refusal := h
      rw [run, Model.insertUpdateBatch, hrefused, Action.run_ofCompiled_error_bind]
      exact ⟨refusal, rfl⟩
  | insert ignore =>
      have hrun : (insert ignore).run m s rows
          = m.runBatch s ((insert ignore).batch m rows []) := by
        cases ignore <;> rfl
      rw [hrun]
      cases hcheck : m.check with
      | error refusal' =>
          refine ⟨refusal', Model.run_runBatch_refused db ?_⟩
          rw [hcheck]
          rfl
      | ok _ =>
          refine ⟨refusal, Model.run_runBatch_refused db ?_⟩
          rw [hcheck]
          exact hcompile

/-- A question that fails ends the run. -/
theorem result_run_of_lookup_error {columns : List String} {failure : Failure}
    (hcolumns : (w.batch m rows []).columns = .ok columns)
    (hlookup : ((w.lookup m s).run db).result = .error failure) :
    ((w.run m s rows).run db).result = .error failure := by
  rw [run_of_columns hcolumns, Action.run_bind_error hlookup]

/-- What is checked behind the question is the primary key and the width of the rows. -/
theorem check_compile_eq_error_iff (hmem : RowsInMemory rows) {conflict columns : List String}
    (hcolumns : (w.batch m rows conflict).columns = .ok columns) :
    (∃ refusal, (m.check >>= fun _ => (w.batch m rows conflict).compile s.dialect s.maxParams)
        = .error refusal)
      ↔ Text.isBlankText m.primaryKey = true ∨ s.maxParams.toNat < columns.length := by
  have hrows : RowsInMemory (w.batch m rows conflict).rows := by
    rw [rows_batch]
    exact hmem
  have htable : Text.isBlankText m.table = false := by
    rw [← table_batch w m rows conflict]
    exact BatchInsert.isBlankText_table hcolumns
  cases hkey : Text.isBlankText m.primaryKey with
  | true =>
      have hcheck : m.check = .error .missingPrimaryKey := by
        rw [Model.check, htable, hkey]
        rfl
      rw [hcheck]
      exact ⟨fun _ => Or.inl rfl, fun _ => ⟨_, rfl⟩⟩
  | false =>
      rw [Model.check_eq_ok.mpr ⟨htable, hkey⟩]
      show (∃ refusal, (w.batch m rows conflict).compile s.dialect s.maxParams = .error refusal) ↔ _
      rw [BatchInsert.compile_eq_error_iff hrows hcolumns]
      exact ⟨Or.inr, fun h => h.resolve_left Bool.false_ne_true⟩

theorem calls_lookup_append (sent : List Call) :
    ((w.lookup m s).run db).calls ++ sent ≠ [] ↔ w.Asks s.dialect ∨ sent ≠ [] := by
  rw [← calls_lookup m db]
  cases ((w.lookup m s).run db).calls with
  | nil => exact ⟨Or.inr, fun h => h.resolve_left fun hne => hne rfl⟩
  | cons call calls =>
      exact ⟨fun _ => Or.inl (List.cons_ne_nil _ _), fun _ => List.cons_ne_nil _ _⟩

/-- A batch is refused behind statements that were sent in just these cases.  Its rows
are well formed.  The database was asked for the columns of a conflict, and then there
is no primary key or the rows are too wide; or the batch compiles, and a list comes
behind the question or behind chunks that were accepted. -/
theorem refused_after_sending_iff (w : BatchWrite) (m : Model) (s : Session σ) (rows : List Row)
    (hmem : RowsInMemory rows) (db : σ) :
    (∃ refusal, ((w.run m s rows).run db).result = .error (.refused refusal))
        ∧ ((w.run m s rows).run db).calls ≠ []
      ↔ ∃ conflict columns, ((w.lookup m s).run db).result = .ok conflict
          ∧ (w.batch m rows conflict).columns = .ok columns
          ∧ (w.Asks s.dialect
              ∧ (Text.isBlankText m.primaryKey = true ∨ s.maxParams.toNat < columns.length)
            ∨ Text.isBlankText m.primaryKey = false ∧ ∃ c before,
              (w.batch m rows conflict).compile s.dialect s.maxParams = .ok c
              ∧ (w.Asks s.dialect ∨ before ≠ [])
              ∧ Model.RefusesAfter s ((w.lookup m s).run db).state before c.chunks) := by
  constructor
  · rintro ⟨⟨refusal, hresult⟩, hcalls⟩
    -- The checks come in this order, and the first one that fails ends the run.
    cases hcolumns : (w.batch m rows []).columns with
    | error refusal' =>
        obtain ⟨_, hrun⟩ := run_of_columns_error s db hcolumns
        rw [hrun] at hcalls
        exact absurd rfl hcalls
    | ok columns =>
        cases hlookup : ((w.lookup m s).run db).result with
        | error failure =>
            have hfailed := result_run_of_lookup_error hcolumns hlookup
            rw [hresult] at hfailed
            cases hfailed
            exact absurd hlookup (result_lookup_ne_refused refusal)
        | ok conflict =>
            rw [columns_batch [] conflict] at hcolumns
            refine ⟨conflict, columns, rfl, hcolumns, ?_⟩
            cases hready : m.check >>= fun _ =>
                (w.batch m rows conflict).compile s.dialect s.maxParams with
            | error refusal' =>
                rw [run_of_lookup_ok hcolumns hlookup, Model.run_runBatch_refused _ hready,
                  Ending.calls_after] at hcalls
                have hasks := (calls_lookup_append []).mp hcalls
                exact Or.inl ⟨hasks.resolve_right fun hne => hne rfl,
                  (check_compile_eq_error_iff hmem hcolumns).mp ⟨refusal', hready⟩⟩
            | ok c =>
                obtain ⟨_, hcheck, hcompile⟩ := bind_eq_ok.mp hready
                obtain ⟨hwritten, _, hsent, _⟩ := run_written hcheck hlookup hcompile
                obtain ⟨before, hrefuses⟩ :=
                  Model.result_writeChunks_refused (hwritten.symm.trans hresult)
                rw [hsent, (hrefuses.run m).2, calls_lookup_append, ne_eq, List.map_eq_nil_iff]
                  at hcalls
                exact Or.inr ⟨(Model.check_eq_ok.mp hcheck).2, c, before, hcompile, hcalls,
                  hrefuses⟩
  · rintro ⟨conflict, columns, hlookup, hcolumns, ⟨hasks, hbad⟩
      | ⟨hkey, c, before, hcompile, hbehind, hrefuses⟩⟩
    · obtain ⟨refusal, hready⟩ := (check_compile_eq_error_iff hmem hcolumns).mpr hbad
      rw [run_of_lookup_ok hcolumns hlookup, Model.run_runBatch_refused _ hready]
      refine ⟨⟨refusal, rfl⟩, ?_⟩
      rw [Ending.calls_after]
      exact (calls_lookup_append []).mpr (Or.inl hasks)
    · have hcheck : m.check = .ok () := by
        rw [Model.check_eq_ok, ← table_batch w m rows conflict]
        exact ⟨BatchInsert.isBlankText_table hcolumns, hkey⟩
      obtain ⟨hwritten, _, hsent, _⟩ := run_written hcheck hlookup hcompile
      obtain ⟨⟨refusal, hresult⟩, hcalls⟩ := hrefuses.run m
      refine ⟨⟨refusal, hwritten.trans hresult⟩, ?_⟩
      rw [hsent, hcalls, calls_lookup_append, ne_eq, List.map_eq_nil_iff]
      exact hbehind

/-- Two rows, of which the second holds a list. -/
def listBehind : List Row := [.ofPairs [("a", .int 1)], .ofPairs [("a", .list [.int 2])]]

/-- A session that may bind one value in a statement. -/
def oneParam : Session Script := ⟨Script.driver "sqlite", .sqlite, 1⟩

/-- The first row is a chunk of its own, and written when the second is refused. -/
theorem refused_after_sending_listBehind :
    RowsInMemory listBehind
      ∧ (∃ refusal, (((insert false).run { table := "t" } oneParam listBehind).run {}).result
          = .error (.refused refusal))
      ∧ (((insert false).run { table := "t" } oneParam listBehind).run {}).calls ≠ [] := by
  have hmem : RowsInMemory listBehind := ⟨by decide, by decide +kernel⟩
  have hcompile : ((insert false).batch { table := "t" } listBehind []).compile .sqlite 1
      = .ok ⟨((insert false).batch { table := "t" } listBehind []).frame .sqlite ["a"],
          ⟨2, 1, 1⟩, 0, listBehind⟩ := by rfl
  refine ⟨hmem, (refused_after_sending_iff (insert false) { table := "t" } oneParam listBehind hmem
    {}).mpr ⟨[], ["a"], rfl, rfl, Or.inr ⟨by decide, _, [_], hcompile,
      Or.inr (List.cons_ne_nil _ _), _, [], [{}], {}, rfl, ?_, ?_, .more rfl .done⟩⟩⟩
  · decide +kernel
  · decide +kernel

end BatchWrite

end BoundSql
