import BoundSql.Proofs.Filter.Operator
import BoundSql.Session

/-!
# The place of a refused item

A list operator takes a list of scalars, and an item that is not scalar is refused together with
its place.  There are two places that it has: the one in its own list, and the one among all
parameters of the condition.  The second one is what is shown when a list is found among the
parameters of a statement that is about to be sent (`Session.checkParams`).

A filter is refused with the first one.  So the two refusals agree if and only if the predicates in
front of the list bind nothing (`Filter.item_place_iff`).
-/

namespace BoundSql

/-! ## Predicates that can be put together -/

namespace Predicate

variable {p : Predicate}

/-- The predicate is trusted text, or its text names an operator. -/
def Named : Predicate → Prop
  | raw _ => True
  | compare _ operator _ => ∃ op : Operator, op.Names operator

theorem render_of_named (h : p.Named) : p.render = .ok p.fragment := by
  cases p with
  | raw sql => rfl
  | compare column operator value =>
      obtain ⟨op, hop⟩ := h
      rw [render, fragment, Operator.ofText?_eq_some_iff.mpr hop]
      rfl

theorem named_of_render {g : Fragment} (h : p.render = .ok g) : p.Named := by
  cases p with
  | raw sql => trivial
  | compare column operator value =>
      cases hop : Operator.ofText? operator with
      | none =>
          rw [render, hop] at h
          cases h
      | some op => exact ⟨op, Operator.ofText?_eq_some_iff.mp hop⟩

theorem WellFormed.named (h : p.WellFormed) : p.Named := named_of_render (render_of_wellFormed h)

/-- A list operator binds the items of its list. -/
theorem values_of_takesList {column operator : String} {op : Operator} {items : List Value}
    (hop : op.Names operator) (hlist : op.takesList) :
    (compare column operator (.list items)).values = items := by
  rw [values, Operator.ofText?_eq_some_iff.mpr hop]
  exact if_neg (Operator.not_isNullCheck hlist)

end Predicate

/-! ## Parameters -/

/-- The first parameter that is not scalar is refused with its place. -/
theorem Session.checkParams_append {front back : List Value} {item : Value}
    (hfront : ∀ v ∈ front, v.isScalar) (hitem : ¬ item.isScalar) :
    checkParams (front ++ item :: back) = .error (.nonScalarParameter front.length item) := by
  have hfirst : Value.firstNonScalar? (front ++ item :: back) = some (front.length, item) :=
    Value.firstNonScalar?_eq_some.mpr ⟨front, back, rfl, hfront, hitem, rfl⟩
  rw [checkParams, hfirst]

/-! ## Filters -/

namespace Filter

variable {f : Filter}

/-- The text of a filter can be put together if all its operators have names. -/
theorem exists_assembled_iff : (∃ condition, f.assembled = .ok condition)
    ↔ ∀ p ∈ f.conjuncts ++ f.alternatives, p.Named := by
  constructor
  · rintro ⟨condition, h⟩
    obtain ⟨conjuncts, hconjuncts, h⟩ := bind_eq_ok.mp h
    obtain ⟨alternatives, halternatives, -⟩ := bind_eq_ok.mp h
    have hnamed : ∀ {ps : List Predicate} {gs : List Fragment}, ps.mapM Predicate.render = .ok gs →
        ∀ p ∈ ps, p.Named := by
      intro ps gs hgs p hp
      obtain ⟨g, hg⟩ := exists_ok_of_mem hgs hp
      exact Predicate.named_of_render hg
    exact List.forall_mem_append.mpr ⟨hnamed hconjuncts, hnamed halternatives⟩
  · intro h
    obtain ⟨hconjuncts, halternatives⟩ := List.forall_mem_append.mp h
    rw [assembled, mapM_of_forall fun p hp => Predicate.render_of_named (hconjuncts p hp),
      mapM_of_forall fun p hp => Predicate.render_of_named (halternatives p hp)]
    cases f.conjuncts <;> cases f.alternatives <;> exact ⟨_, rfl⟩

section

variable {front back : List Predicate} {column operator : String} {op : Operator}
  {before after : List Value} {item : Value}
  (hf : f.conjuncts ++ f.alternatives
    = front ++ .compare column operator (.list (before ++ item :: after)) :: back)
  (hfront : ∀ p ∈ front, p.WellFormed) (hop : op.Names operator) (hlist : op.takesList)
  (hbefore : ∀ v ∈ before, v.isScalar) (hitem : ¬ item.isScalar)

include hf hfront hop hlist hbefore hitem

/-- The item is refused with its place in the list. -/
theorem compile_item :
    f.compile = .error (.nonScalarParameter before.length item) := by
  have hfault : (Predicate.compare column operator (.list (before ++ item :: after))).IllFormed
      (.nonScalarParameter before.length item) :=
    .operand (Operator.ofText?_eq_some_iff.mpr hop) (.item hlist rfl hbefore hitem)
  rw [compile_eq_error_iff, forM_eq_error_iff]
  exact ⟨front, _, back, hf, fun p hp => p.check_iff.1.mpr (hfront p hp),
    (Predicate.check_iff _).2 _ |>.mpr hfault⟩

/-- Among the values of the filter the item is the first that is not scalar. -/
theorem checkParams_values : Session.checkParams f.values
    = .error (.nonScalarParameter ((front.flatMap Predicate.values).length + before.length)
        item) := by
  have hvalues : f.values = (front.flatMap Predicate.values ++ before)
      ++ item :: (after ++ back.flatMap Predicate.values) := by
    rw [values, hf, List.flatMap_append, List.flatMap_cons,
      Predicate.values_of_takesList hop hlist]
    simp only [List.append_assoc, List.cons_append]
  have hscalar : ∀ v ∈ front.flatMap Predicate.values ++ before, v.isScalar := by
    refine List.forall_mem_append.mpr ⟨fun v hv => ?_, hbefore⟩
    obtain ⟨p, hp, hvalue⟩ := List.mem_flatMap.mp hv
    exact (hfront p hp).scalar_values v hvalue
  rw [hvalues, Session.checkParams_append hscalar hitem, List.length_append]

/-- If the first predicate that is not well formed has a list with an item that is not scalar, then
the filter is refused with the place of that item in its list.  Were the text put together all the
same, which only needs names for the operators behind, then the parameters would be refused with the
place of the item among all of them, that is behind what the predicates in front bind.  The filter
is refused with this place if and only if the predicates in front bind nothing. -/
theorem item_place_iff :
    f.compile = .error (.nonScalarParameter before.length item)
      ∧ ((∃ condition, f.assembled = .ok condition) ↔ ∀ p ∈ back, p.Named)
      ∧ (∀ condition, f.assembled = .ok condition →
          Session.checkParams (condition.elim [] Fragment.params)
            = .error (.nonScalarParameter
                ((front.flatMap Predicate.values).length + before.length) item))
      ∧ (f.compile = .error (.nonScalarParameter
            ((front.flatMap Predicate.values).length + before.length) item)
          ↔ ∀ p ∈ front, p.values = []) := by
  have hcompile := compile_item hf hfront hop hlist hbefore hitem
  refine ⟨hcompile, ?_, fun condition h => ?_, ?_⟩
  · rw [exists_assembled_iff, hf, List.forall_mem_append, List.forall_mem_cons]
    exact ⟨fun h => h.2.2, fun h => ⟨fun p hp => (hfront p hp).named, ⟨op, hop⟩, h⟩⟩
  · rw [params_assembled h]
    exact checkParams_values hf hfront hop hlist hbefore hitem
  · rw [hcompile, Except.error.injEq, Refusal.nonScalarParameter.injEq, Nat.right_eq_add,
      List.length_eq_zero_iff, List.flatMap_eq_nil_iff]
    exact and_iff_left rfl

end

/-- A list with a list in it, behind a predicate that binds a value. -/
def shifted : Filter where
  conjuncts := [.compare "a" "=" (.int 1), .compare "b" "in" (.list [.int 1, .list [.int 2]])]

/-- The list is the third of the parameters, and the second of its list. -/
theorem item_place_iff_shifted :
    shifted.compile = .error (.nonScalarParameter 1 (.list [.int 2]))
      ∧ (∃ condition, shifted.assembled = .ok condition
          ∧ Session.checkParams (condition.elim [] Fragment.params)
            = .error (.nonScalarParameter 2 (.list [.int 2])))
      ∧ shifted.compile ≠ .error (.nonScalarParameter 2 (.list [.int 2])) := by
  have heq : Operator.ofText? "=" = some .eq := by decide +kernel
  have hin : Operator.ofText? "in" = some .isIn := by decide +kernel
  have hvalues : (Predicate.compare "a" "=" (.int 1)).values = [.int 1] := by
    rw [Predicate.values, heq]
    rfl
  have hfront : ∀ p ∈ shifted.conjuncts.take 1, p.WellFormed :=
    List.forall_mem_singleton.mpr (.compare heq (.scalar (by decide) (by decide) rfl))
  have hsplit : shifted.conjuncts ++ shifted.alternatives = shifted.conjuncts.take 1
      ++ .compare "b" "in" (.list ([.int 1] ++ .list [.int 2] :: [])) :: [] := rfl
  obtain ⟨hcompile, hassembled, hparams, hplace⟩ := item_place_iff hsplit hfront
    (Operator.ofText?_eq_some_iff.mp hin) rfl (by decide) (by decide)
  obtain ⟨condition, hcondition⟩ := hassembled.mpr (List.forall_mem_nil _)
  have hplaces : ((shifted.conjuncts.take 1).flatMap Predicate.values).length
      + [Value.int 1].length = 2 := by
    show ([Predicate.compare "a" "=" (.int 1)].flatMap Predicate.values).length + 1 = 2
    rw [List.flatMap_singleton, hvalues]
    rfl
  rw [hplaces] at hparams hplace
  refine ⟨hcompile, ⟨condition, hcondition, hparams condition hcondition⟩, fun h => ?_⟩
  have hnothing := hplace.mp h _ List.mem_cons_self
  rw [hvalues] at hnothing
  cases hnothing

end Filter

end BoundSql
