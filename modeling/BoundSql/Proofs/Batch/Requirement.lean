import BoundSql.Batch.Insert
import BoundSql.Proofs.Refusal

/-!
# What is asked of a batch

A batch has to meet some requirements, one after the other (`BatchInsert.Requirement`).  Each of
them is a property of the batch (`Met`), and if the batch does not have it, then there is a first
place where it fails, which is shown in the refusal (`Unmet`).  All but the last are about the
batch alone, and three of these are the steps in which a policy is validated
(`UpsertPolicy.validate_eq`).  The last is about the ceiling on parameters.

The columns of a batch are refused for the first requirement that is not met
(`BatchInsert.columns_eq_error_iff`), and they are those of its first row if all are met
(`BatchInsert.columns_eq_ok_iff`).
-/

namespace BoundSql

/-! ## Policies -/

namespace UpsertPolicy

variable {p : UpsertPolicy} {inserted : List String}

/-- A policy is validated in three steps. -/
theorem validate_eq (p : UpsertPolicy) (inserted : List String) : p.validate inserted =
    (if p.columns = [] then .error .emptyUpsertPolicy else .ok ()) >>= fun _ =>
    (p.incremented.find? p.updated.contains).elim (.ok ())
      (fun c => .error (.conflictingUpsertColumn c)) >>= fun _ =>
    (p.columns.find? fun c => !inserted.contains c).elim (.ok ())
      (fun c => .error (.unknownUpsertColumn c)) := by
  simp only [validate, List.isEmpty_iff]
  split
  · rfl
  · cases p.incremented.find? p.updated.contains with
    | some c => rfl
    | none => cases p.columns.find? fun c => !inserted.contains c <;> rfl

/-- A policy is validated if it names inserted columns only, and none in both lists. -/
theorem validate_eq_ok : p.validate inserted = .ok () ↔
    p.columns ≠ [] ∧ (∀ c ∈ p.incremented, c ∉ p.updated) ∧ ∀ c ∈ p.columns, c ∈ inserted := by
  simp [validate_eq, bind_check_eq_ok, elim_error_eq_ok, List.find?_eq_none]

end UpsertPolicy

/-! ## Columns -/

namespace BatchInsert

theorem columns_eq (b : BatchInsert) : b.columns =
    if Text.isBlankText b.table then .error .missingTable
    else match b.rows with
      | [] => .error (.emptyData .batch)
      | first :: _ =>
          if first.isEmpty then .error (.noColumns b.table)
          else match misshapen? first.columns b.rows with
            | some (index, row) => .error (.rowShapeMismatch index first.columns row.columns)
            | none =>
                match b.mode with
                | .upsert policy => policy.validate first.columns >>= fun _ => .ok first.columns
                | _ => .ok first.columns := rfl

theorem misshapen?_eq_none {expected : List String} {rows : List Row} :
    misshapen? expected rows = none ↔ ∀ r ∈ rows, r.columns = expected := by
  rw [misshapen?, find?_zipIdx_eq_none (p := fun r : Row => r.columns != expected)]
  simp only [bne_eq_false_iff_eq]

theorem misshapen?_eq_some {expected : List String} {rows : List Row} {index : Nat} {row : Row} :
    misshapen? expected rows = some (index, row)
      ↔ ∃ front back, rows = front ++ row :: back ∧ (∀ r ∈ front, r.columns = expected)
        ∧ row.columns ≠ expected ∧ front.length = index := by
  rw [misshapen?, find?_zipIdx_eq_some (p := fun r : Row => r.columns != expected)]
  simp only [bne_eq_false_iff_eq, bne_iff_ne]

/-! ## Requirements -/

/-- The columns of the first row. -/
def layout (b : BatchInsert) : List String := (b.rows.headD .empty).columns

/-- What is asked of a batch. -/
inductive Requirement where
  /-- The table has a name. -/
  | named
  /-- There are rows. -/
  | filled
  /-- The first row has columns. -/
  | columned
  /-- All rows have the columns of the first one, in the same order. -/
  | uniform
  /-- An upsert policy has columns. -/
  | merging
  /-- No column is both updated and incremented. -/
  | apart
  /-- The columns of an upsert policy are inserted. -/
  | inserted
  /-- A row has no more values than the ceiling. -/
  | narrow
deriving DecidableEq

namespace Requirement

/-- What is asked of the batch alone, in the order in which it is asked. -/
def own : List Requirement := [named, filled, columned, uniform, merging, apart, inserted]

/-- All that is asked, in the order in which it is asked. -/
def all : List Requirement := own ++ [narrow]

theorem mem_all (r : Requirement) : r ∈ all := by
  cases r <;> decide

/-- The batch is as it is asked for. -/
def Met (b : BatchInsert) (maxParams : UInt64) : Requirement → Prop
  | named => ¬ Text.isBlankText b.table
  | filled => b.rows ≠ []
  | columned => b.layout ≠ []
  | uniform => ∀ row ∈ b.rows, row.columns = b.layout
  | merging => ∀ policy, b.mode = .upsert policy → policy.columns ≠ []
  | apart => ∀ policy, b.mode = .upsert policy → ∀ c ∈ policy.incremented, c ∉ policy.updated
  | inserted => ∀ policy, b.mode = .upsert policy → ∀ c ∈ policy.columns, c ∈ b.layout
  | narrow => b.layout.length ≤ maxParams.toNat

/-- The batch is not as it is asked for, and the refusal says in what. -/
inductive Unmet (b : BatchInsert) (maxParams : UInt64) : Requirement → Refusal → Prop where
  | named : Text.isBlankText b.table → Unmet b maxParams named .missingTable
  | filled : b.rows = [] → Unmet b maxParams filled (.emptyData .batch)
  | columned : b.layout = [] → Unmet b maxParams columned (.noColumns b.table)
  /-- The first row that differs is shown. -/
  | uniform {front row back} : b.rows = front ++ row :: back →
      (∀ r ∈ front, r.columns = b.layout) → row.columns ≠ b.layout →
      Unmet b maxParams uniform (.rowShapeMismatch front.length b.layout row.columns)
  | merging {policy} : b.mode = .upsert policy → policy.columns = [] →
      Unmet b maxParams merging .emptyUpsertPolicy
  /-- The first incremented column that is updated as well is shown. -/
  | apart {policy front c back} : b.mode = .upsert policy →
      policy.incremented = front ++ c :: back → (∀ x ∈ front, x ∉ policy.updated) →
      c ∈ policy.updated → Unmet b maxParams apart (.conflictingUpsertColumn c)
  /-- The first column that is not inserted is shown, of the updated columns before the
  incremented ones. -/
  | inserted {policy front c back} : b.mode = .upsert policy →
      policy.columns = front ++ c :: back → (∀ x ∈ front, x ∈ b.layout) →
      c ∉ b.layout → Unmet b maxParams inserted (.unknownUpsertColumn c)
  | narrow : maxParams.toNat < b.layout.length →
      Unmet b maxParams narrow (.rowTooWide b.layout.length maxParams.toNat)

/-- A check of the policy, if there is one. -/
def checkPolicy (b : BatchInsert) (check : UpsertPolicy → Except Refusal Unit) :
    Except Refusal Unit :=
  match b.mode with
  | .upsert policy => check policy
  | _ => .ok ()

/-- A requirement is checked by itself. -/
def check (b : BatchInsert) (maxParams : UInt64) : Requirement → Except Refusal Unit
  | named => if Text.isBlankText b.table then .error .missingTable else .ok ()
  | filled => if b.rows = [] then .error (.emptyData .batch) else .ok ()
  | columned => if b.layout = [] then .error (.noColumns b.table) else .ok ()
  | uniform => (misshapen? b.layout b.rows).elim (.ok ()) fun e =>
      .error (.rowShapeMismatch e.1 b.layout e.2.columns)
  | merging => checkPolicy b fun policy =>
      if policy.columns = [] then .error .emptyUpsertPolicy else .ok ()
  | apart => checkPolicy b fun policy =>
      (policy.incremented.find? policy.updated.contains).elim (.ok ()) fun c =>
        .error (.conflictingUpsertColumn c)
  | inserted => checkPolicy b fun policy =>
      (policy.columns.find? fun c => !b.layout.contains c).elim (.ok ()) fun c =>
        .error (.unknownUpsertColumn c)
  | narrow =>
      if maxParams.toNat < b.layout.length then .error (.rowTooWide b.layout.length maxParams.toNat)
      else .ok ()

variable {b : BatchInsert} {maxParams : UInt64}

theorem checkPolicy_eq_ok {check : UpsertPolicy → Except Refusal Unit} :
    checkPolicy b check = .ok () ↔ ∀ policy, b.mode = .upsert policy → check policy = .ok () := by
  unfold checkPolicy
  cases b.mode <;> simp

theorem checkPolicy_eq_error {check : UpsertPolicy → Except Refusal Unit} {refusal : Refusal} :
    checkPolicy b check = .error refusal
      ↔ ∃ policy, b.mode = .upsert policy ∧ check policy = .error refusal := by
  unfold checkPolicy
  cases b.mode <;> simp

theorem check_eq_ok {r : Requirement} : r.check b maxParams = .ok () ↔ r.Met b maxParams := by
  cases r <;> simp [check, Met, checkPolicy_eq_ok, elim_error_eq_ok, misshapen?_eq_none]

/-- A check that fails shows the first place where it does. -/
theorem unmet_of_check {r : Requirement} {refusal : Refusal}
    (h : r.check b maxParams = .error refusal) : Unmet b maxParams r refusal := by
  cases r with
  | named =>
      obtain ⟨hblank, rfl⟩ := ite_error_eq_error.mp h
      exact .named hblank
  | filled =>
      obtain ⟨hrows, rfl⟩ := ite_error_eq_error.mp h
      exact .filled hrows
  | columned =>
      obtain ⟨hlayout, rfl⟩ := ite_error_eq_error.mp h
      exact .columned hlayout
  | uniform =>
      obtain ⟨⟨index, row⟩, hfind, rfl⟩ := elim_error_eq_error.mp h
      obtain ⟨front, back, hrows, hfront, hrow, rfl⟩ := misshapen?_eq_some.mp hfind
      exact .uniform hrows hfront hrow
  | merging =>
      obtain ⟨policy, hmode, hcheck⟩ := checkPolicy_eq_error.mp h
      obtain ⟨hcolumns, rfl⟩ := ite_error_eq_error.mp hcheck
      exact .merging hmode hcolumns
  | apart =>
      obtain ⟨policy, hmode, hcheck⟩ := checkPolicy_eq_error.mp h
      obtain ⟨c, hfind, rfl⟩ := elim_error_eq_error.mp hcheck
      obtain ⟨hc, front, back, hcolumns, hfront⟩ := List.find?_eq_some_iff_append.mp hfind
      exact .apart hmode hcolumns (by simpa using hfront) (by simpa using hc)
  | inserted =>
      obtain ⟨policy, hmode, hcheck⟩ := checkPolicy_eq_error.mp h
      obtain ⟨c, hfind, rfl⟩ := elim_error_eq_error.mp hcheck
      obtain ⟨hc, front, back, hcolumns, hfront⟩ := List.find?_eq_some_iff_append.mp hfind
      exact .inserted hmode hcolumns (by simpa using hfront) (by simpa using hc)
  | narrow =>
      obtain ⟨hwide, rfl⟩ := ite_error_eq_error.mp h
      exact .narrow hwide

theorem check_eq_error {r : Requirement} {refusal : Refusal} :
    r.check b maxParams = .error refusal ↔ Unmet b maxParams r refusal := by
  refine ⟨unmet_of_check, fun h => ?_⟩
  cases h with
  | named hblank => exact if_pos hblank
  | filled hrows => exact if_pos hrows
  | columned hlayout => exact if_pos hlayout
  | uniform hrows hfront hrow =>
      exact elim_error_eq_error.mpr
        ⟨_, misshapen?_eq_some.mpr ⟨_, _, hrows, hfront, hrow, rfl⟩, rfl⟩
  | merging hmode hcolumns => exact checkPolicy_eq_error.mpr ⟨_, hmode, if_pos hcolumns⟩
  | @apart policy front c back hmode hcolumns hfront hc =>
      refine checkPolicy_eq_error.mpr ⟨policy, hmode, elim_error_eq_error.mpr ⟨c, ?_, rfl⟩⟩
      rw [List.find?_eq_some_iff_append]
      exact ⟨by simpa using hc, front, back, hcolumns, by simpa using hfront⟩
  | @inserted policy front c back hmode hcolumns hfront hc =>
      refine checkPolicy_eq_error.mpr ⟨policy, hmode, elim_error_eq_error.mpr ⟨c, ?_, rfl⟩⟩
      rw [List.find?_eq_some_iff_append]
      exact ⟨by simpa using hc, front, back, hcolumns, by simpa using hfront⟩
  | narrow hwide => exact if_pos hwide

end Requirement

/-! ## Checks of a whole batch -/

variable {b : BatchInsert} {maxParams : UInt64}

/-- A policy is validated requirement by requirement. -/
theorem validate_eq_checks {policy : UpsertPolicy} (hmode : b.mode = .upsert policy)
    (maxParams : UInt64) :
    policy.validate b.layout
      = [Requirement.merging, .apart, .inserted].forM (Requirement.check b maxParams) := by
  simp only [UpsertPolicy.validate_eq, List.forM_eq_forM, List.forM_cons, List.forM_nil,
    bind_pure_unit, Requirement.check, Requirement.checkPolicy, hmode]

open Requirement in
/-- The columns of a batch are those of its first row if it passes the checks. -/
theorem columns_eq_checks (b : BatchInsert) (maxParams : UInt64) :
    b.columns = own.forM (check b maxParams) >>= fun _ => .ok b.layout := by
  rw [columns_eq, own]
  by_cases hblank : Text.isBlankText b.table
  · rw [if_pos hblank, forM_cons_of_error (check_eq_error.mpr (.named hblank))]
    rfl
  have hnamed : named.check b maxParams = .ok () := if_neg hblank
  rw [if_neg hblank, forM_cons_of_ok hnamed]
  cases hrows : b.rows with
  | nil =>
      rw [forM_cons_of_error (check_eq_error.mpr (.filled hrows))]
      rfl
  | cons first rest =>
      have hfirst : first.columns = b.layout := by rw [layout, hrows, List.headD_cons]
      have hempty : first.isEmpty ↔ b.layout = [] := by simp [Row.isEmpty, ← hfirst, Row.columns]
      have hfilled : filled.check b maxParams = .ok () := if_neg (by simp [hrows])
      dsimp only
      rw [forM_cons_of_ok hfilled, hfirst, ← hrows]
      by_cases hlayout : b.layout = []
      · rw [forM_cons_of_error (check_eq_error.mpr (.columned hlayout))]
        exact if_pos (hempty.mpr hlayout)
      have hcolumned : columned.check b maxParams = .ok () := if_neg hlayout
      rw [forM_cons_of_ok hcolumned]
      refine (if_neg (mt hempty.mp hlayout)).trans ?_
      cases hshape : misshapen? b.layout b.rows with
      | some e =>
          have huniform : uniform.check b maxParams
              = .error (.rowShapeMismatch e.1 b.layout e.2.columns) := by
            rw [check, hshape]
            rfl
          rw [forM_cons_of_error huniform]
          rfl
      | none =>
          have huniform : uniform.check b maxParams = .ok () := by
            rw [check, hshape]
            rfl
          rw [forM_cons_of_ok huniform]
          cases hmode : b.mode with
          | upsert policy => exact congrArg (· >>= _) (validate_eq_checks hmode maxParams)
          | insert | insertIgnore =>
              have hpolicy : ∀ f, checkPolicy b f = .ok () := fun f => by rw [checkPolicy, hmode]
              simp only [List.forM, check, hpolicy]
              rfl

/-- The refusal of a batch is that of the first requirement that it does not meet. -/
def RefusedFor (b : BatchInsert) (maxParams : UInt64) (asked : List Requirement)
    (refusal : Refusal) : Prop :=
  ∃ front r back, asked = front ++ r :: back ∧ (∀ q ∈ front, q.Met b maxParams)
    ∧ r.Unmet b maxParams refusal

theorem forM_check_eq_ok {asked : List Requirement} :
    asked.forM (Requirement.check b maxParams) = .ok () ↔ ∀ r ∈ asked, r.Met b maxParams := by
  simp only [forM_eq_ok_iff, Requirement.check_eq_ok]

theorem forM_check_eq_error {asked : List Requirement} {refusal : Refusal} :
    asked.forM (Requirement.check b maxParams) = .error refusal
      ↔ b.RefusedFor maxParams asked refusal := by
  simp only [forM_eq_error_iff, Requirement.check_eq_ok, Requirement.check_eq_error]
  rfl

theorem columns_eq_ok_iff (maxParams : UInt64) {columns : List String} : b.columns = .ok columns
    ↔ (∀ r ∈ Requirement.own, r.Met b maxParams) ∧ b.layout = columns := by
  rw [columns_eq_checks b maxParams, bind_const_eq_ok, forM_check_eq_ok]

theorem columns_eq_error_iff (maxParams : UInt64) {refusal : Refusal} :
    b.columns = .error refusal ↔ b.RefusedFor maxParams Requirement.own refusal := by
  rw [columns_eq_checks b maxParams, bind_const_eq_error, forM_check_eq_error]

end BatchInsert

end BoundSql
