import BoundSql.Filter
import BoundSql.Proofs.Fragment
import BoundSql.Proofs.Refusal

/-!
# Texts of filters

What a filter says is read off its predicates alone (`Filter.spelled`), with any text
in the place of each value, and so are the values that it binds (`Filter.values`).  A
filter that compiles is spelled like that (`Filter.spells_clause`).
-/

namespace BoundSql

/-! ## Predicates -/

namespace Predicate

/-- What stands behind the operator, with a text for each value. -/
def spelledOperand (write : Value → String) (op : Operator) (value : Value) : String :=
  if op.isNullCheck then "NULL"
  else match value with
    | .list items => "(" ++ String.intercalate ", " (items.map write) ++ ")"
    | v => write v

/-- A comparison, with a text for each value.  An unknown operator has no text. -/
def spelledComparison (write : Value → String) (column : String) (value : Value) :
    Option Operator → String
  | none => ""
  | some op => column ++ " " ++ op.symbol ++ " " ++ spelledOperand write op value

/-- The condition, with a text for each value. -/
def spelled (p : Predicate) (write : Value → String) : String :=
  match p with
  | .raw sql => sql
  | .compare column operator value =>
      spelledComparison write column value (Operator.ofText? operator)

/-- The values that an operand binds. -/
def operandValues (op : Operator) (value : Value) : List Value :=
  if op.isNullCheck then []
  else match value with
    | .list items => items
    | v => [v]

/-- The values that a condition binds. -/
def values : Predicate → List Value
  | .raw _ => []
  | .compare _ operator value =>
      (Operator.ofText? operator).elim [] fun op => operandValues op value

/-- What a condition takes on trust. -/
def trusted : Predicate → List String
  | .raw sql => [sql]
  | .compare column _ _ => [column]

/-- A comparison as it stands in a statement.  An unknown operator has none. -/
def comparison (column : String) (value : Value) : Option Operator → Fragment
  | none => []
  | some op => .text (column ++ " " ++ op.symbol ++ " ") ++ operand op value

/-- The condition as it stands in a statement. -/
def fragment : Predicate → Fragment
  | .raw sql => .text sql
  | .compare column operator value => comparison column value (Operator.ofText? operator)

theorem eq_fragment {p : Predicate} {f : Fragment} (h : p.render = .ok f) : f = p.fragment := by
  cases p with
  | raw sql => exact (Except.ok.inj h).symm
  | compare column operator value =>
      rw [render] at h
      rw [fragment]
      generalize Operator.ofText? operator = named at h ⊢
      cases named with
      | none => cases h
      | some op => exact (Except.ok.inj h).symm

theorem spells_operand (op : Operator) (value : Value) :
    (operand op value).Spells (fun write => spelledOperand write op value)
      (operandValues op value) [] := by
  by_cases hnull : op.isNullCheck
  · have hfragment : operand op value = .text "NULL" := if_pos hnull
    have hspelled : (fun write => spelledOperand write op value) = fun _ => "NULL" :=
      funext fun _ => if_pos hnull
    have hvalues : operandValues op value = [] := if_pos hnull
    rw [hfragment, hspelled, hvalues]
    exact Fragment.spells_text fun _ => by decide
  · unfold operand operandValues spelledOperand
    rw [if_neg hnull, if_neg hnull, funext fun _ => if_neg hnull]
    cases value with
    | list items => exact Fragment.spells_tuple items
    | null | bool | int | float | text | blob => exact Fragment.spells_bound _

theorem unmarked_symbol (op : Operator) : Text.Unmarked op.symbol := by
  cases op <;> decide

theorem spells_comparison (column : String) (value : Value) (named : Option Operator) :
    (comparison column value named).Spells (fun write => spelledComparison write column value named)
      (named.elim [] fun op => operandValues op value) [column] := by
  cases named with
  | none => exact Fragment.spells_nil [column]
  | some op =>
      have hhead : (Fragment.text (column ++ " " ++ op.symbol ++ " ")).Spells
          (fun _ => column ++ " " ++ op.symbol ++ " ") [] [column] := by
        refine Fragment.spells_text fun h => ?_
        simp only [Text.unmarked_append]
        exact ⟨⟨⟨h column List.mem_cons_self, by decide⟩, unmarked_symbol op⟩, by decide⟩
      exact hhead.append (spells_operand op value)

theorem spells_fragment (p : Predicate) : p.fragment.Spells p.spelled p.values p.trusted := by
  cases p with
  | raw sql => exact Fragment.spells_text fun h => h sql List.mem_cons_self
  | compare column operator value =>
      exact spells_comparison column value (Operator.ofText? operator)

end Predicate

/-! ## Filters -/

namespace Filter

/-- The predicates that stand together.  The conjuncts are one group, and every
alternative is one by itself. -/
def groups (f : Filter) : List (List Predicate) :=
  (if f.conjuncts.isEmpty then [] else [f.conjuncts]) ++ f.alternatives.map fun p => [p]

/-- The text of predicates that hold together. -/
def spelledGroup (write : Value → String) (ps : List Predicate) : String :=
  String.intercalate " AND " (ps.map fun p => p.spelled write)

/-- The `WHERE` clause with the space in front of it, with a text for each value. -/
def spelled (f : Filter) (write : Value → String) : String :=
  if f.isEmpty then ""
  else if f.alternatives.isEmpty then " WHERE " ++ spelledGroup write f.conjuncts
  else " WHERE "
    ++ String.intercalate " OR " (f.groups.map fun ps => "(" ++ spelledGroup write ps ++ ")")

/-- The values that a filter binds. -/
def values (f : Filter) : List Value := (f.conjuncts ++ f.alternatives).flatMap Predicate.values

/-- What a filter takes on trust. -/
def trusted (f : Filter) : List String := (f.conjuncts ++ f.alternatives).flatMap Predicate.trusted

/-- Predicates that hold together, as they stand in a statement. -/
def fragmentGroup (ps : List Predicate) : Fragment :=
  .joined " AND " (ps.map Predicate.fragment)

theorem fragmentGroup_singleton (p : Predicate) : fragmentGroup [p] = p.fragment :=
  Fragment.joined_singleton " AND " p.fragment

theorem flatten_groups (f : Filter) : f.groups.flatten = f.conjuncts ++ f.alternatives := by
  have halternatives : (f.alternatives.map fun p => [p]).flatten = f.alternatives := by
    rw [← List.flatMap_def]
    exact List.flatMap_singleton' f.alternatives
  rw [groups, List.flatten_append, halternatives]
  cases f.conjuncts with
  | nil => rfl
  | cons p ps => rw [List.isEmpty_cons, if_neg Bool.false_ne_true, List.flatten_singleton]

/-- The second step of the compilation, in which the text is put together. -/
def assembled (f : Filter) : Except Refusal (Option Fragment) := do
  let conjuncts ← f.conjuncts.mapM Predicate.render
  let alternatives ← f.alternatives.mapM Predicate.render
  let conjunction := Fragment.joined " AND " conjuncts
  match conjuncts, alternatives with
  | [], [] => pure none
  | _, [] => pure (some conjunction)
  | [], _ => pure (some (.joined " OR " (alternatives.map Fragment.parenthesized)))
  | _, _ => pure (some (.joined " OR " ((conjunction :: alternatives).map Fragment.parenthesized)))

/-- A filter is compiled in two steps. -/
theorem compile_eq_bind (f : Filter) :
    f.compile = (f.conjuncts ++ f.alternatives).forM Predicate.check >>= fun _ => f.assembled :=
  rfl

/-- The condition of a filter that is put together. -/
theorem assembled_eq_ok {f : Filter} {condition : Option Fragment}
    (h : f.assembled = .ok condition) :
    condition =
      if f.isEmpty then none
      else if f.alternatives.isEmpty then some (fragmentGroup f.conjuncts)
      else some (.joined " OR " (f.groups.map fun ps => (fragmentGroup ps).parenthesized)) := by
  rw [assembled] at h
  obtain ⟨conjuncts, hconjuncts, h⟩ := bind_eq_ok.mp h
  obtain ⟨alternatives, halternatives, h⟩ := bind_eq_ok.mp h
  rw [mapM_eq_ok (fun _ _ => Predicate.eq_fragment) hconjuncts,
    mapM_eq_ok (fun _ _ => Predicate.eq_fragment) halternatives] at h
  have hsingle : (f.alternatives.map fun p => (fragmentGroup [p]).parenthesized)
      = (f.alternatives.map Predicate.fragment).map Fragment.parenthesized := by
    rw [List.map_map]
    exact List.map_congr_left fun p _ => by rw [fragmentGroup_singleton]; rfl
  rw [isEmpty, groups, List.map_append, List.map_map]
  show _ = if _ then _ else if _ then _ else some (Fragment.joined _ (_ ++ f.alternatives.map
    fun p => (fragmentGroup [p]).parenthesized))
  rw [hsingle]
  cases hc : f.conjuncts <;> cases ha : f.alternatives <;> rw [hc, ha] at h <;>
    exact (Except.ok.inj h).symm

/-- The condition of a filter that compiles. -/
theorem compile_eq_ok {f : Filter} {condition : Option Fragment} (h : f.compile = .ok condition) :
    condition =
      if f.isEmpty then none
      else if f.alternatives.isEmpty then some (fragmentGroup f.conjuncts)
      else some (.joined " OR " (f.groups.map fun ps => (fragmentGroup ps).parenthesized)) := by
  rw [compile_eq_bind] at h
  exact assembled_eq_ok (bind_check_eq_ok.mp h).2

theorem spells_fragmentGroup (ps : List Predicate) :
    (fragmentGroup ps).Spells (fun write => spelledGroup write ps) (ps.flatMap Predicate.values)
      (ps.flatMap Predicate.trusted) :=
  Fragment.spells_joined (by decide) ps fun p _ => p.spells_fragment

theorem values_eq (f : Filter) :
    f.values = f.groups.flatMap fun ps => ps.flatMap Predicate.values := by
  rw [values, ← flatten_groups, ← List.flatMap_id, List.flatMap_assoc]
  rfl

theorem trusted_eq (f : Filter) :
    f.trusted = f.groups.flatMap fun ps => ps.flatMap Predicate.trusted := by
  rw [trusted, ← flatten_groups, ← List.flatMap_id, List.flatMap_assoc]
  rfl

/-- The clause of a condition, or nothing. -/
def clauseOf (condition : Option Fragment) : Fragment :=
  condition.elim [] fun g => .text " WHERE " ++ g

/-- A clause binds what its condition binds. -/
theorem params_clauseOf (condition : Option Fragment) :
    (clauseOf condition).params = condition.elim [] Fragment.params := by
  cases condition with
  | none => rfl
  | some g => exact Fragment.params_append (.text " WHERE ") g

theorem clause_eq_ok {f : Filter} {g : Fragment} (h : f.clause = .ok g) :
    ∃ condition, f.compile = .ok condition ∧ g = clauseOf condition := by
  obtain ⟨condition, hcondition, h⟩ := bind_eq_ok.mp h
  refine ⟨condition, hcondition, ?_⟩
  cases condition <;> exact (Except.ok.inj h).symm

/-- The condition that is put together is spelled as the filter says. -/
theorem spells_assembled {f : Filter} {condition : Option Fragment}
    (h : f.assembled = .ok condition) :
    (clauseOf condition).Spells f.spelled f.values f.trusted := by
  have hkeyword : (Fragment.text " WHERE ").Spells (fun _ => " WHERE ") [] [] :=
    Fragment.spells_text fun _ => by decide
  rw [assembled_eq_ok h]
  by_cases hempty : f.isEmpty
  · have hspelled : f.spelled = fun _ => "" := funext fun _ => if_pos hempty
    obtain ⟨hconjuncts, halternatives⟩ := Bool.and_eq_true_iff.mp hempty
    rw [if_pos hempty, hspelled, values, List.isEmpty_iff.mp hconjuncts,
      List.isEmpty_iff.mp halternatives]
    exact Fragment.spells_nil f.trusted
  · rw [if_neg hempty]
    by_cases hno : f.alternatives.isEmpty
    · have hspelled : f.spelled = fun write => " WHERE " ++ spelledGroup write f.conjuncts :=
        funext fun _ => (if_neg hempty).trans (if_pos hno)
      rw [if_pos hno, hspelled, values, trusted, List.isEmpty_iff.mp hno, List.append_nil]
      exact hkeyword.append (spells_fragmentGroup f.conjuncts)
    · have hspelled : f.spelled = fun write => " WHERE " ++ String.intercalate " OR "
          (f.groups.map fun ps => "(" ++ spelledGroup write ps ++ ")") :=
        funext fun _ => (if_neg hempty).trans (if_neg hno)
      rw [if_neg hno, hspelled, values_eq, trusted_eq]
      exact hkeyword.append
        (Fragment.spells_joined (by decide) f.groups fun ps _ =>
          (spells_fragmentGroup ps).parenthesized)

/-- The clause of a filter that compiles is spelled as the filter says. -/
theorem spells_clause {f : Filter} {g : Fragment} (h : f.clause = .ok g) :
    g.Spells f.spelled f.values f.trusted := by
  obtain ⟨condition, hcondition, rfl⟩ := clause_eq_ok h
  rw [compile_eq_bind] at hcondition
  exact spells_assembled (bind_check_eq_ok.mp hcondition).2

/-- What is bound by a condition that is put together are the values of the filter. -/
theorem params_assembled {f : Filter} {condition : Option Fragment}
    (h : f.assembled = .ok condition) : condition.elim [] Fragment.params = f.values := by
  rw [← params_clauseOf]
  exact (spells_assembled h).params_eq

end Filter

end BoundSql
