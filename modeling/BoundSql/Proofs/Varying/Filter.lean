import BoundSql.Proofs.Filter.WellFormed
import BoundSql.Proofs.Varying

/-!
# Filters with values that vary

A filter is made by calls that add predicates or take the place of the whole filter
(`FilterCall`).  In every run the same calls are made, with other values.  Then the filter
has the same predicates in every run, but for the values (`Filter.Steady`), and it is
compiled alike: whether a predicate is refused depends on its operator and on the shape of
its operand, and the text on the number of items in a list.
-/

namespace BoundSql

variable {ι : Type} {V : Varying ι → Prop}

/-! ## Operands -/

namespace Predicate

theorem operand_scalar {op : Operator} (hnull : ¬ op.isNullCheck) {v : Value} (h : v.isScalar) :
    operand op v = .bound v := by
  cases v with
  | list items => cases h
  | null | bool | int | float | text | blob => exact if_neg hnull

end Predicate

/-- The operand of a comparison: a scalar that varies, or a list whose items vary. -/
inductive Operand (ι : Type) where
  /-- A scalar in every run. -/
  | one (v : Varying ι) (scalar : v.scalar = true)
  /-- A list of the same length in every run. -/
  | list (items : List (Varying ι))

namespace Operand

/-- The operand in a run. -/
def value (i : ι) : Operand ι → Value
  | one v _ => v.value i
  | list items => .list (items.map fun v => v.value i)

/-- The values of an operand. -/
def values : Operand ι → List (Varying ι)
  | one v _ => [v]
  | list items => items

theorem alike_checkOperand (column : String) (op : Operator) (o : Operand ι) :
    Alike (fun _ => True) fun i => Predicate.checkOperand column op (o.value i) := by
  cases o with
  | one v scalar =>
      have hcheck : ∀ i, Predicate.checkOperand column op (v.value i)
          = if op.isNullCheck then .ok ()
            else if op.takesList then .error (.listRequired column op) else .ok () := fun i =>
        Predicate.checkOperand_scalar column op ((v.isScalar_value i).trans scalar)
      refine .of_eq hcheck ?_
      by_cases hnull : op.isNullCheck
      · simp only [if_pos hnull]
        exact .ok trivial
      · simp only [if_neg hnull]
        by_cases hlist : op.takesList
        · simp only [if_pos hlist]
          exact .error _
        · simp only [if_neg hlist]
          exact .ok trivial
  | list items =>
      unfold Predicate.checkOperand
      by_cases hnull : op.isNullCheck
      · simp only [if_pos hnull]
        exact .ok trivial
      · simp only [if_neg hnull]
        by_cases hlist : op.takesList
        · simp only [if_pos hlist]
          cases items with
          | nil => exact .error _
          | cons v vs =>
              have hfirst := Varying.firstNonScalar?_eq (v :: vs)
              simp only [List.map_cons] at hfirst
              simp only [value, List.map_cons, hfirst]
              -- only the value that is shown depends on the run
              cases (v :: vs).zipIdx.find? fun e => !e.1.scalar with
              | none => exact .ok trivial
              | some e => exact Or.inr ⟨.nonScalarParameter e.2 .null, fun _ => rfl⟩
        · simp only [if_neg hlist]
          exact .error _

theorem steady_operand (op : Operator) {o : Operand ι} (h : ∀ v ∈ o.values, V v) :
    Fragment.Steady V fun i => Predicate.operand op (o.value i) := by
  by_cases hnull : op.isNullCheck
  · simp only [Predicate.operand, if_pos hnull]
    exact Fragment.steady_text "NULL"
  · cases o with
    | one v scalar =>
        have hbound : ∀ i, Predicate.operand op (v.value i) = .bound (v.value i) := fun i =>
          Predicate.operand_scalar hnull ((v.isScalar_value i).trans scalar)
        simp only [value, hbound]
        exact Fragment.steady_bound (h v List.mem_cons_self)
    | list items =>
        simp only [Predicate.operand, if_neg hnull]
        exact Fragment.steady_tuple h

end Operand

/-! ## Predicates -/

/-- A predicate whose values vary. -/
inductive Condition (ι : Type) where
  /-- A column compared with an operand. -/
  | compare (column operator : String) (operand : Operand ι)
  /-- Trusted text. -/
  | raw (sql : String)

namespace Condition

/-- The predicate in a run. -/
def predicate (i : ι) : Condition ι → Predicate
  | compare column operator operand => .compare column operator (operand.value i)
  | raw sql => .raw sql

/-- The values of a condition. -/
def values : Condition ι → List (Varying ι)
  | compare _ _ operand => operand.values
  | raw _ => []

theorem alike_check (c : Condition ι) : Alike (fun _ => True) fun i => (c.predicate i).check := by
  cases c with
  | raw sql => exact .ok trivial
  | compare column operator operand =>
      cases hop : Operator.ofText? operator with
      | none =>
          exact (Alike.error (.unsupportedOperator operator)).of_eq fun i => by
            rw [predicate, Predicate.check, hop]
      | some op =>
          exact (operand.alike_checkOperand column op).of_eq fun i => by
            rw [predicate, Predicate.check, hop]

theorem alike_render {c : Condition ι} (h : ∀ v ∈ c.values, V v) :
    Alike (Fragment.Steady V) fun i => (c.predicate i).render := by
  cases c with
  | raw sql => exact .ok (Fragment.steady_text sql)
  | compare column operator operand =>
      cases hop : Operator.ofText? operator with
      | none =>
          exact (Alike.error (.unsupportedOperator operator)).of_eq fun i => by
            rw [predicate, Predicate.render, hop]
      | some op =>
          have hcomparison := (Fragment.steady_text (column ++ " " ++ op.symbol ++ " ")).append
            (operand.steady_operand op h)
          exact (Alike.ok hcomparison).of_eq fun i => by rw [predicate, Predicate.render, hop]

end Condition

/-! ## Filters -/

namespace Filter

variable {f : ι → Filter}

/-- The filter has the same predicates in every run, but for values that vary. -/
def Steady (V : Varying ι → Prop) (f : ι → Filter) : Prop :=
  ∃ conjuncts alternatives : List (Condition ι),
    (∀ c ∈ conjuncts ++ alternatives, ∀ v ∈ c.values, V v)
      ∧ f = fun i =>
        ⟨conjuncts.map fun c => c.predicate i, alternatives.map fun c => c.predicate i⟩

theorem steady_empty : Steady V fun _ => ({} : Filter) :=
  ⟨[], [], fun _ hc => absurd hc List.not_mem_nil, rfl⟩

/-- The clause is the same in every run, but for values that vary. -/
theorem alike_clause (hf : Steady V f) : Alike (Fragment.Steady V) fun i => (f i).clause := by
  obtain ⟨conjuncts, alternatives, hvalues, rfl⟩ := hf
  have hrender : ∀ cs : List (Condition ι), (∀ c ∈ cs, c ∈ conjuncts ++ alternatives) →
      Alike (Each (Fragment.Steady V)) fun i => (cs.map fun c => c.predicate i).mapM Predicate.render :=
    fun cs hcs => .mapM fun c hc => Condition.alike_render (hvalues c (hcs c hc))
  unfold clause compile
  simp only [← List.map_append, bind_assoc]
  refine (Alike.forM fun c _ => c.alike_check).bind fun _ _ => ?_
  refine (hrender conjuncts fun c hc => List.mem_append_left _ hc).bind fun fs hfs => ?_
  refine (hrender alternatives fun c hc => List.mem_append_right _ hc).bind fun gs hgs => ?_
  have hconjunction : Fragment.Steady V fun i => .joined " AND " (fs i) :=
    Fragment.steady_joined _ hfs
  have hgroups : Each (Fragment.Steady V) fun i => (gs i).map Fragment.parenthesized :=
    hgs.map fun _ hg => hg.parenthesized
  have hwhere : ∀ {f : ι → Fragment}, Fragment.Steady V f →
      Alike (Fragment.Steady V) fun i => .ok (.text " WHERE " ++ f i) := fun hf =>
    .ok ((Fragment.steady_text " WHERE ").append hf)
  have hboth := hgroups.cons hconjunction.parenthesized
  -- the runs agree on which of the two groups are empty
  obtain ⟨fs', _, rfl⟩ := hfs
  obtain ⟨gs', _, rfl⟩ := hgs
  cases fs' with
  | nil =>
      cases gs' with
      | nil => exact .ok Fragment.steady_nil
      | cons g gs => exact hwhere (Fragment.steady_joined " OR " hgroups)
  | cons f fs =>
      cases gs' with
      | nil => exact hwhere hconjunction
      | cons g gs => exact hwhere (Fragment.steady_joined " OR " hboth)

end Filter

/-! ## Calls -/

/-- A call that changes a filter. -/
inductive FilterCall (ι : Type) where
  /-- One more predicate that holds together with the others. -/
  | and (c : Condition ι)
  /-- One more alternative. -/
  | or (c : Condition ι)
  /-- Another filter takes the place of the whole filter. -/
  | replace (conjuncts alternatives : List (Condition ι))

namespace FilterCall

/-- What a run makes of the filter. -/
def apply (i : ι) (f : Filter) : FilterCall ι → Filter
  | and c => f.and (c.predicate i)
  | or c => f.or (c.predicate i)
  | replace conjuncts alternatives =>
      ⟨conjuncts.map fun c => c.predicate i, alternatives.map fun c => c.predicate i⟩

/-- The values of a call. -/
def values : FilterCall ι → List (Varying ι)
  | and c | or c => c.values
  | replace conjuncts alternatives => (conjuncts ++ alternatives).flatMap Condition.values

example (f : Filter) (column : String) (items : List (Varying ι)) (i : ι) :
    f.whereIn column (items.map fun v => v.value i)
      = apply i f (.and (.compare column "IN" (.list items))) := rfl

theorem steady_apply {f : ι → Filter} (hf : Filter.Steady V f) {call : FilterCall ι}
    (hcall : ∀ v ∈ call.values, V v) : Filter.Steady V fun i => call.apply i (f i) := by
  obtain ⟨conjuncts, alternatives, hvalues, rfl⟩ := hf
  obtain ⟨hconjuncts, halternatives⟩ := List.forall_mem_append.mp hvalues
  cases call with
  | and c =>
      refine ⟨conjuncts ++ [c], alternatives, ?_, funext fun i => ?_⟩
      · simp only [List.forall_mem_append, List.forall_mem_singleton]
        exact ⟨⟨hconjuncts, hcall⟩, halternatives⟩
      · simp only [apply, Filter.and, List.map_append, List.map_singleton]
  | or c =>
      refine ⟨conjuncts, alternatives ++ [c], ?_, funext fun i => ?_⟩
      · simp only [List.forall_mem_append, List.forall_mem_singleton]
        exact ⟨hconjuncts, halternatives, hcall⟩
      · simp only [apply, Filter.or, List.map_append, List.map_singleton]
  | replace conjuncts' alternatives' =>
      refine ⟨conjuncts', alternatives', ?_, rfl⟩
      intro c hc v hv
      exact hcall v (List.mem_flatMap.mpr ⟨c, hc, hv⟩)

end FilterCall

end BoundSql
