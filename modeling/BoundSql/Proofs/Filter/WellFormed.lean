import BoundSql.Proofs.Filter

/-!
# Well formed predicates

Operators ask for operands of different shapes.  A null check takes any value, a list operator
takes a list of scalars with at least one item, and every other operator takes a scalar.  A
predicate is *well formed* if it is trusted text, or if its text names an operator that takes the
value (`Predicate.WellFormed`), and else there is one refusal for what is wrong with it
(`Predicate.IllFormed`).

A filter is compiled if all its predicates are well formed, and else it is refused for the first
that is not (`Filter.compile_wellFormed`).  So the second step of the compilation, in which the
text is put together, never fails.
-/

namespace BoundSql

/-! ## Operands -/

namespace Operator

theorem not_isNullCheck {op : Operator} (h : op.takesList) : ¬ op.isNullCheck := by
  cases op <;> simp_all [takesList, isNullCheck]

/-- The operands that an operator takes. -/
inductive Takes : Operator → Value → Prop where
  /-- A null check does not look at its operand. -/
  | any {op value} : op.isNullCheck → Takes op value
  | items {op items} : op.takesList → items ≠ [] → (∀ v ∈ items, v.isScalar) →
      Takes op (.list items)
  | scalar {op value} : ¬ op.isNullCheck → ¬ op.takesList → value.isScalar → Takes op value

/-- The operands that an operator does not take, and the refusals for them. -/
inductive Rejects (column : String) : Operator → Value → Refusal → Prop where
  | scalar {op value} : op.takesList → value.isScalar →
      Rejects column op value (.listRequired column op)
  | noItems {op} : op.takesList → Rejects column op (.list []) (.emptyList column op)
  /-- The first item that is not scalar is shown. -/
  | item {op items front v back} : op.takesList → items = front ++ v :: back →
      (∀ w ∈ front, w.isScalar) → ¬ v.isScalar →
      Rejects column op (.list items) (.nonScalarParameter front.length v)
  | list {op items} : ¬ op.isNullCheck → ¬ op.takesList →
      Rejects column op (.list items) (.scalarRequired column op)

/-- Every operand is taken or refused. -/
theorem takes_or_rejects (column : String) (op : Operator) (value : Value) :
    op.Takes value ∨ ∃ refusal, op.Rejects column value refusal := by
  by_cases hnull : op.isNullCheck
  · exact .inl (.any hnull)
  by_cases hlist : op.takesList
  · cases value with
    | list items =>
        cases hfirst : Value.firstNonScalar? items with
        | some e =>
            obtain ⟨front, back, hitems, hfront, hv, _⟩ := Value.firstNonScalar?_eq_some.mp hfirst
            exact .inr ⟨_, .item hlist hitems hfront hv⟩
        | none =>
            cases items with
            | nil => exact .inr ⟨_, .noItems hlist⟩
            | cons v vs =>
                exact .inl (.items hlist (List.cons_ne_nil v vs) (Value.firstNonScalar?_eq_none.mp hfirst))
    | null | bool | int | float | text | blob => exact .inr ⟨_, .scalar hlist rfl⟩
  · cases value with
    | list items => exact .inr ⟨_, .list hnull hlist⟩
    | null | bool | int | float | text | blob => exact .inl (.scalar hnull hlist rfl)

end Operator

namespace Predicate

theorem checkOperand_scalar (column : String) (op : Operator) {v : Value} (h : v.isScalar) :
    checkOperand column op v = if op.isNullCheck then .ok ()
      else if op.takesList then .error (.listRequired column op) else .ok () := by
  cases v with
  | list items => cases h
  | null | bool | int | float | text | blob => rfl

theorem checkOperand_list (column : String) {op : Operator} (h : op.takesList)
    (items : List Value) : checkOperand column op (.list items)
      = if items = [] then .error (.emptyList column op)
        else (Value.firstNonScalar? items).elim (.ok ()) fun e =>
          .error (.nonScalarParameter e.1 e.2) := by
  unfold checkOperand
  rw [if_neg (Operator.not_isNullCheck h), if_pos h]
  cases items with
  | nil => rfl
  | cons v vs =>
      rw [if_neg (List.cons_ne_nil v vs)]
      dsimp only
      cases Value.firstNonScalar? (v :: vs) <;> rfl

theorem checkOperand_of_takes {column : String} {op : Operator} {value : Value}
    (h : op.Takes value) : checkOperand column op value = .ok () := by
  cases h with
  | any hnull => exact if_pos hnull
  | items hlist hne hscalar =>
      rw [checkOperand_list column hlist, if_neg hne, Value.firstNonScalar?_eq_none.mpr hscalar]
      rfl
  | scalar hnull hlist hscalar =>
      rw [checkOperand_scalar column op hscalar, if_neg hnull, if_neg hlist]

theorem checkOperand_of_rejects {column : String} {op : Operator} {value : Value}
    {refusal : Refusal} (h : op.Rejects column value refusal) :
    checkOperand column op value = .error refusal := by
  cases h with
  | scalar hlist hscalar =>
      rw [checkOperand_scalar column op hscalar, if_neg (Operator.not_isNullCheck hlist),
        if_pos hlist]
  | noItems hlist => rw [checkOperand_list column hlist, if_pos rfl]
  | @item _ front v back hlist hitems hfront hv =>
      have hne : front ++ v :: back ≠ [] := by simp
      subst hitems
      rw [checkOperand_list column hlist, if_neg hne,
        Value.firstNonScalar?_eq_some.mpr ⟨front, back, rfl, hfront, hv, rfl⟩]
      rfl
  | list hnull hlist =>
      unfold checkOperand
      rw [if_neg hnull, if_neg hlist]
      rfl

/-! ## Predicates -/

/-- The predicate can be compiled. -/
inductive WellFormed : Predicate → Prop where
  | raw (sql : String) : WellFormed (.raw sql)
  | compare {column operator value op} : Operator.ofText? operator = some op → op.Takes value →
      WellFormed (.compare column operator value)

/-- The predicate cannot be compiled, and the refusal says why. -/
inductive IllFormed : Predicate → Refusal → Prop where
  | operator {column operator value} : Operator.ofText? operator = none →
      IllFormed (.compare column operator value) (.unsupportedOperator operator)
  | operand {column operator value op refusal} : Operator.ofText? operator = some op →
      op.Rejects column value refusal → IllFormed (.compare column operator value) refusal

theorem wellFormed_or_illFormed (p : Predicate) :
    p.WellFormed ∨ ∃ refusal, p.IllFormed refusal := by
  cases p with
  | raw sql => exact .inl (.raw sql)
  | compare column operator value =>
      cases hop : Operator.ofText? operator with
      | none => exact .inr ⟨_, .operator hop⟩
      | some op =>
          rcases op.takes_or_rejects column value with htakes | ⟨refusal, hrejects⟩
          · exact .inl (.compare hop htakes)
          · exact .inr ⟨refusal, .operand hop hrejects⟩

/-- The check of a predicate says whether it is well formed. -/
theorem check_iff (p : Predicate) : (p.check = .ok () ↔ p.WellFormed)
    ∧ ∀ refusal, p.check = .error refusal ↔ p.IllFormed refusal := by
  refine outcome_iff (fun h => ?_) (fun refusal h => ?_) p.wellFormed_or_illFormed
  · cases h with
    | raw sql => rfl
    | compare hop htakes =>
        rw [check, hop]
        exact checkOperand_of_takes htakes
  · cases h with
    | operator hop => rw [check, hop]
    | operand hop hrejects =>
        rw [check, hop]
        exact checkOperand_of_rejects hrejects

theorem render_of_wellFormed {p : Predicate} (h : p.WellFormed) : p.render = .ok p.fragment := by
  cases h with
  | raw sql => rfl
  | compare hop _ => rw [render, fragment, hop]; rfl

theorem scalar_operandValues {op : Operator} {value : Value} (h : op.Takes value) :
    ∀ v ∈ operandValues op value, v.isScalar := by
  unfold operandValues
  cases h with
  | any hnull =>
      rw [if_pos hnull]
      exact fun v hv => absurd hv List.not_mem_nil
  | items hlist _ hscalar =>
      rw [if_neg (Operator.not_isNullCheck hlist)]
      exact hscalar
  | scalar hnull _ hscalar =>
      rw [if_neg hnull]
      cases value with
      | list items => cases hscalar
      | null | bool | int | float | text | blob => exact List.forall_mem_singleton.mpr rfl

/-- A well formed predicate binds scalars. -/
theorem WellFormed.scalar_values {p : Predicate} (h : p.WellFormed) :
    ∀ v ∈ p.values, v.isScalar := by
  cases h with
  | raw sql => exact fun v hv => absurd hv List.not_mem_nil
  | compare hop htakes =>
      rw [values, hop]
      exact scalar_operandValues htakes

end Predicate

/-! ## Filters -/

namespace Filter

variable {f : Filter}

/-- A filter of well formed predicates is compiled. -/
theorem exists_compile (h : ∀ p ∈ f.conjuncts ++ f.alternatives, p.WellFormed) :
    ∃ condition, f.compile = .ok condition := by
  have hchecks : (f.conjuncts ++ f.alternatives).forM Predicate.check = .ok () :=
    forM_eq_ok_iff.mpr fun p hp => p.check_iff.1.mpr (h p hp)
  obtain ⟨hconjuncts, halternatives⟩ := List.forall_mem_append.mp h
  rw [compile, hchecks, mapM_of_forall fun p hp => Predicate.render_of_wellFormed (hconjuncts p hp),
    mapM_of_forall fun p hp => Predicate.render_of_wellFormed (halternatives p hp)]
  cases f.conjuncts <;> cases f.alternatives <;> exact ⟨_, rfl⟩

/-- Only the checks of its predicates can refuse a filter. -/
theorem compile_eq_error_iff {refusal : Refusal} : f.compile = .error refusal
    ↔ (f.conjuncts ++ f.alternatives).forM Predicate.check = .error refusal := by
  constructor
  · intro h
    cases hchecks : (f.conjuncts ++ f.alternatives).forM Predicate.check with
    | ok =>
        obtain ⟨condition, hcondition⟩ := exists_compile fun p hp =>
          p.check_iff.1.mp (forM_eq_ok_iff.mp hchecks p hp)
        cases hcondition.symm.trans h
    | error refusal' =>
        rw [compile, hchecks] at h
        exact congrArg _ (Except.error.inj h)
  · intro h
    rw [compile, h]
    rfl

theorem compile_eq_ok_iff : (∃ condition, f.compile = .ok condition)
    ↔ ∀ p ∈ f.conjuncts ++ f.alternatives, p.WellFormed := by
  refine ⟨fun ⟨condition, h⟩ p hp => ?_, exists_compile⟩
  obtain ⟨_, hchecks, _⟩ := bind_eq_ok.mp h
  exact p.check_iff.1.mp (forM_eq_ok_iff.mp hchecks p hp)

/-- A filter that is compiled binds scalars. -/
theorem scalar_values {condition : Option Fragment} (h : f.compile = .ok condition) :
    ∀ v ∈ f.values, v.isScalar := by
  intro v hv
  obtain ⟨p, hp, hvalue⟩ := List.mem_flatMap.mp hv
  exact (compile_eq_ok_iff.mp ⟨condition, h⟩ p hp).scalar_values v hvalue

/-- What a condition binds are the values of the filter. -/
theorem params_condition {condition : Option Fragment} (h : f.compile = .ok condition) :
    condition.elim [] Fragment.params = f.values := by
  rw [compile_eq_bind] at h
  exact params_assembled (bind_check_eq_ok.mp h).2

/-- A filter is compiled if and only if all its predicates are well formed.  It binds the values of
its conjuncts before those of its alternatives, and all of them are scalars.  If not all predicates
are well formed, then the filter is refused for the first that is not, whatever the others are.
The second step of the compilation is refused for no filter that has passed the first. -/
theorem compile_wellFormed (f : Filter) :
    ((∃ condition, f.compile = .ok condition)
        ↔ ∀ p ∈ f.conjuncts ++ f.alternatives, p.WellFormed)
      ∧ (∀ condition, f.compile = .ok condition →
          condition.elim [] Fragment.params = f.conjuncts.flatMap Predicate.values
              ++ f.alternatives.flatMap Predicate.values
            ∧ ∀ v ∈ condition.elim [] Fragment.params, v.isScalar)
      ∧ (∀ refusal, f.compile = .error refusal ↔ ∃ front p back,
          f.conjuncts ++ f.alternatives = front ++ p :: back ∧ (∀ q ∈ front, q.WellFormed)
            ∧ p.IllFormed refusal)
      ∧ ((f.conjuncts ++ f.alternatives).forM Predicate.check = .ok () →
          ∀ p ∈ f.conjuncts ++ f.alternatives, p.render = .ok p.fragment) := by
  refine ⟨compile_eq_ok_iff, fun condition h => ?_, fun refusal => ?_, fun h p hp => ?_⟩
  · rw [params_condition h]
    exact ⟨List.flatMap_append, scalar_values h⟩
  · simp only [compile_eq_error_iff, forM_eq_error_iff, (Predicate.check_iff _).1,
      (Predicate.check_iff _).2]
  · exact Predicate.render_of_wellFormed (p.check_iff.1.mp (forM_eq_ok_iff.mp h p hp))

/-- A null check with a list, which is not looked at, and two predicates that are at fault. -/
def faulty : Filter where
  conjuncts := [.compare "a" "is  NOT" (.list [.list []]), .raw "b = c",
    .compare "d" "in" (.list [.int 1, .null, .list [.int 2], .list []])]
  alternatives := [.compare "e" "==" (.int 3)]

/-- A filter with the first predicates of the faulty one and alternatives that are well formed. -/
def repaired : Filter where
  conjuncts := faulty.conjuncts.take 2
  alternatives := [.compare "e" "not in" (.list [.int 3, .text "?"]), .compare "f" "=" .null]

/-- The first of two faults is shown.  Without them the values are bound in order, and the list in
the null check is not among them. -/
theorem compile_wellFormed_faulty :
    faulty.compile = .error (.nonScalarParameter 2 (.list [.int 2]))
      ∧ ∃ condition, repaired.compile = .ok condition
          ∧ condition.elim [] Fragment.params = [.int 3, .text "?", .null] := by
  have hnull : Operator.ofText? "is  NOT" = some .isNot := by decide +kernel
  have hin : Operator.ofText? "in" = some .isIn := by decide +kernel
  have hnotIn : Operator.ofText? "not in" = some .notIn := by decide +kernel
  have heq : Operator.ofText? "=" = some .eq := by decide +kernel
  have hfront : ∀ p ∈ faulty.conjuncts.take 2, p.WellFormed :=
    List.forall_mem_cons.mpr
      ⟨.compare hnull (.any rfl), List.forall_mem_singleton.mpr (.raw "b = c")⟩
  constructor
  · refine ((compile_wellFormed faulty).2.2.1 _).mpr
      ⟨faulty.conjuncts.take 2, _, faulty.alternatives, rfl, hfront, .operand hin ?_⟩
    have hitems : [Value.int 1, .null, .list [.int 2], .list []]
        = [.int 1, .null] ++ .list [.int 2] :: [.list []] := rfl
    exact .item rfl hitems (by decide) (by decide)
  · have hwell : ∀ p ∈ repaired.conjuncts ++ repaired.alternatives, p.WellFormed := by
      refine List.forall_mem_append.mpr ⟨hfront, ?_⟩
      have hitems : Operator.Takes .notIn (.list [.int 3, .text "?"]) :=
        .items rfl (List.cons_ne_nil _ _) (by decide)
      exact List.forall_mem_cons.mpr ⟨.compare hnotIn hitems,
        List.forall_mem_singleton.mpr (.compare heq (.scalar (by decide) (by decide) rfl))⟩
    obtain ⟨condition, hcondition⟩ := (compile_wellFormed repaired).1.mpr hwell
    refine ⟨condition, hcondition, ?_⟩
    rw [((compile_wellFormed repaired).2.1 condition hcondition).1]
    simp only [repaired, faulty, Predicate.values, List.take_succ_cons, List.take_zero,
      List.flatMap_cons, List.flatMap_nil, hnull, hnotIn, heq]
    rfl

end Filter

end BoundSql
