import BoundSql.Proofs.Batch.Insert

/-!
# Accepted batches

A batch is planned and compiled if it meets all requirements, and else both are refused for the
first one that it does not meet (`BatchInsert.compile_accepts`).  Nothing else is ever refused:
once the columns are accepted there are rows and columns to plan, and the ceiling decides.
-/

namespace BoundSql

namespace BatchInsert

variable {b : BatchInsert} {maxParams : UInt64}

/-- The plan of a batch that passes the checks. -/
def planned (b : BatchInsert) (maxParams : UInt64) : BatchPlan :=
  ⟨UInt64.ofNat b.rows.length, UInt64.ofNat b.layout.length,
    maxParams / UInt64.ofNat b.layout.length⟩

/-- The plan of a batch is made if it passes all checks. -/
theorem plan_eq_checks (hmem : RowsInMemory b.rows) (maxParams : UInt64) :
    b.plan maxParams = Requirement.all.forM (Requirement.check b maxParams) >>= fun _ =>
      .ok (b.planned maxParams) := by
  have hall : Requirement.all.forM (Requirement.check b maxParams)
      = Requirement.own.forM (Requirement.check b maxParams) >>= fun _ =>
        Requirement.narrow.check b maxParams := by
    simp only [Requirement.all, List.forM_eq_forM, List.forM_append, List.forM_cons, List.forM_nil,
      bind_pure_unit]
  have hcolumns := columns_eq_checks b maxParams
  rw [plan_eq, hall, bind_assoc]
  cases hown : Requirement.own.forM (Requirement.check b maxParams) with
  | error refusal =>
      rw [hcolumns, hown]
      rfl
  | ok =>
      rw [hown] at hcolumns
      rw [hcolumns]
      refine (make_of_columns hmem hcolumns).trans ?_
      show _ = Requirement.narrow.check b maxParams >>= _
      rw [Requirement.check]
      split <;> rfl

/-- Compilation is refused as planning is. -/
theorem compile_eq_plan (b : BatchInsert) (d : Dialect) (maxParams : UInt64) :
    b.compile d maxParams
      = (b.plan maxParams).map fun plan => ⟨b.frame d b.layout, plan, 0, b.rows⟩ := by
  rw [compile_eq, plan_eq]
  cases hcolumns : b.columns with
  | error refusal => rfl
  | ok columns =>
      obtain ⟨_, rfl⟩ := (columns_eq_ok_iff maxParams).mp hcolumns
      show (BatchPlan.make _ _ _ >>= _) = (BatchPlan.make _ _ _).map _
      cases BatchPlan.make (UInt64.ofNat b.rows.length) (UInt64.ofNat b.layout.length) maxParams <;>
        rfl

/-- A batch is accepted if and only if it is as it is asked for, and else it is refused for the
first requirement that it does not meet.  The columns of a batch are accepted if it meets what
does not depend on the ceiling, and they are those of its first row.  A batch is planned as it is
compiled, in either dialect, and no plan is ever refused for a lack of rows or columns. -/
theorem compile_accepts (b : BatchInsert) (hmem : RowsInMemory b.rows) (d : Dialect)
    (maxParams : UInt64) :
    ((∃ c, b.compile d maxParams = .ok c) ↔ ∀ r : Requirement, r.Met b maxParams)
      ∧ (∀ refusal, b.compile d maxParams = .error refusal
          ↔ b.RefusedFor maxParams Requirement.all refusal)
      ∧ (∀ columns, b.columns = .ok columns
          ↔ (∀ r ∈ Requirement.own, r.Met b maxParams) ∧ b.layout = columns)
      ∧ (∀ refusal, b.columns = .error refusal ↔ b.RefusedFor maxParams Requirement.own refusal)
      ∧ (∀ p, b.plan maxParams = .ok p ↔ ∃ c, b.compile d maxParams = .ok c ∧ c.plan = p)
      ∧ (∀ refusal, b.plan maxParams = .error refusal ↔ b.compile d maxParams = .error refusal)
      ∧ ∀ columns subject, b.columns = .ok columns →
          BatchPlan.make (UInt64.ofNat b.rows.length) (UInt64.ofNat columns.length) maxParams
            ≠ .error (.emptyData subject) := by
  have hcompile : ∀ refusal, b.compile d maxParams = .error refusal
      ↔ b.plan maxParams = .error refusal := fun refusal => by
    rw [compile_eq_plan]
    cases b.plan maxParams <;> simp [Except.map]
  refine ⟨?_, fun refusal => ?_, fun columns => columns_eq_ok_iff maxParams,
    fun refusal => columns_eq_error_iff maxParams, fun p => ?_,
    fun refusal => (hcompile refusal).symm, fun columns subject hcolumns => ?_⟩
  · simp only [compile_eq_plan, plan_eq_checks hmem, map_eq_ok, bind_const_eq_ok, forM_check_eq_ok]
    constructor
    · rintro ⟨_, _, ⟨hmet, _⟩, _⟩ r
      exact hmet r (Requirement.mem_all r)
    · exact fun hmet => ⟨_, _, ⟨fun r _ => hmet r, rfl⟩, rfl⟩
  · rw [hcompile, plan_eq_checks hmem, bind_const_eq_error, forM_check_eq_error]
  · rw [compile_eq_plan]
    cases b.plan maxParams <;> simp [Except.map]
  · rw [make_of_columns hmem hcolumns]
    split <;> simp

/-- The columns of the last two rows are shuffled, and the policy is at fault as well. -/
def shuffled : BatchInsert where
  table := "t"
  rows := [.ofPairs [("a", .int 1), ("b", .int 2)], .ofPairs [("a", .int 3), ("b", .int 4)],
    .ofPairs [("b", .int 5), ("a", .int 6)], .ofPairs [("b", .int 7), ("a", .int 8)]]
  mode := .upsert { updated := ["c"], incremented := ["a", "c"] }

/-- The first of the shuffled rows is shown.  Without them it is the column that is both updated
and incremented, and the unknown column is not noticed. -/
theorem compile_accepts_shuffled :
    RowsInMemory shuffled.rows
      ∧ shuffled.compile .sqlite 1 = .error (.rowShapeMismatch 2 ["a", "b"] ["b", "a"])
      ∧ ({ shuffled with rows := shuffled.rows.take 2 } : BatchInsert).compile .mysql 1
        = .error (.conflictingUpsertColumn "c") := by
  have hmem : RowsInMemory shuffled.rows := ⟨by decide, by decide +kernel⟩
  have hmem' : RowsInMemory (shuffled.rows.take 2) := ⟨by decide, by decide +kernel⟩
  obtain ⟨_, hrefused, _⟩ := compile_accepts shuffled hmem .sqlite 1
  obtain ⟨_, hrefused', _⟩ :=
    compile_accepts { shuffled with rows := shuffled.rows.take 2 } hmem' .mysql 1
  exact ⟨hmem, (hrefused _).mpr (forM_check_eq_error.mp rfl),
    (hrefused' _).mpr (forM_check_eq_error.mp rfl)⟩

end BatchInsert

end BoundSql
