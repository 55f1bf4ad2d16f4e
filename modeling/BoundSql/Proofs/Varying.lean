import BoundSql.Proofs.Fragment
import BoundSql.Refusal

/-!
# Values that vary

The same thing is compiled in many runs, one for each member of a type `ι`, and the runs
differ only in the values that are bound.  A value of this kind is a `Varying`.  It is
scalar in every run or in none, and apart from that it may be any value in any run.

What is compiled is *alike* in all runs (`Alike`) if there is a result in all of them or in
none, and then they are all refused for the same cause.  A fragment is *steady*
(`Fragment.Steady`) if its text is the same in all runs, and its parameters are values that
vary, in an order that does not depend on the run.  Putting steady fragments together gives
steady fragments.
-/

namespace BoundSql

variable {ι α β γ : Type}

/-! ## Values -/

/-- A value that may be another one in each run. -/
structure Varying (ι : Type) where
  value : ι → Value
  /-- The value may be bound to a placeholder. -/
  scalar : Bool
  /-- This is so in every run, or in none. -/
  isScalar_value (i : ι) : (value i).isScalar = scalar

/-- The first value that is no scalar stands at the same position in every run. -/
theorem Varying.firstNonScalar?_eq (vs : List (Varying ι)) (i : ι) :
    Value.firstNonScalar? (vs.map fun v => v.value i)
      = (vs.zipIdx.find? fun e => !e.1.scalar).map fun e => (e.2, e.1.value i) := by
  have hscalar : ((fun e : Value × Nat => !e.1.isScalar) ∘ Prod.map (fun v => v.value i) id)
      = fun e : Varying ι × Nat => !e.1.scalar := by
    funext e
    simp [e.1.isScalar_value i]
  rw [Value.firstNonScalar?, List.zipIdx_map, List.find?_map, hscalar, Option.map_map]
  rfl

/-- A statement with places for values that vary. -/
structure Template (ι : Type) where
  /-- The text. -/
  sql : String
  /-- The values of the placeholders, from left to right. -/
  params : List (Varying ι)

/-- The statement in a run. -/
def Template.statement (t : Template ι) (i : ι) : Statement :=
  ⟨t.sql, t.params.map fun v => v.value i⟩

/-! ## Calls -/

/-- What each of some calls preserves in all runs together, all of them preserve. -/
theorem preserved_foldl {S : (ι → α) → Prop} {apply : ι → α → γ → α} {calls : List γ}
    (hstep : ∀ c ∈ calls, ∀ a, S a → S fun i => apply i (a i) c) :
    ∀ a, S a → S fun i => calls.foldl (apply i) (a i) := by
  induction calls with
  | nil => exact fun _ ha => ha
  | cons c cs ih =>
      intro a ha
      exact ih (fun c' hc' => hstep c' (List.mem_cons_of_mem c hc')) _
        (hstep c List.mem_cons_self a ha)

/-! ## Compilations -/

/-- The refusal without the value that it shows. -/
def Refusal.withoutValue : Refusal → Refusal
  | nonScalarParameter index _ => nonScalarParameter index .null
  | refusal => refusal

/-- All runs have results, and together these have a property, or all runs are refused for
the same cause. -/
def Alike (Q : (ι → α) → Prop) (x : ι → Except Refusal α) : Prop :=
  (∃ a, Q a ∧ ∀ i, x i = .ok (a i))
    ∨ ∃ refusal, ∀ i, (x i).mapError Refusal.withoutValue = .error refusal

/-- The lists of all runs have the same length, and their members at each position have a
property together. -/
def Each (Q : (ι → α) → Prop) (as : ι → List α) : Prop :=
  ∃ members : List (ι → α), (∀ a ∈ members, Q a) ∧ as = fun i => members.map fun a => a i

namespace Each

variable {Q : (ι → α) → Prop} {Q' : (ι → β) → Prop} {as : ι → List α}

theorem nil : Each Q fun _ => [] := ⟨[], fun _ ha => absurd ha List.not_mem_nil, rfl⟩

theorem cons {a : ι → α} (has : Each Q as) (ha : Q a) : Each Q fun i => a i :: as i := by
  obtain ⟨members, hmembers, rfl⟩ := has
  exact ⟨a :: members, List.forall_mem_cons.mpr ⟨ha, hmembers⟩, rfl⟩

theorem append {bs : ι → List α} (has : Each Q as) (hbs : Each Q bs) :
    Each Q fun i => as i ++ bs i := by
  obtain ⟨members, hmembers, rfl⟩ := has
  obtain ⟨members', hmembers', rfl⟩ := hbs
  refine ⟨members ++ members', List.forall_mem_append.mpr ⟨hmembers, hmembers'⟩, funext fun i => ?_⟩
  rw [List.map_append]

theorem take (has : Each Q as) (n : Nat) : Each Q fun i => (as i).take n := by
  obtain ⟨members, hmembers, rfl⟩ := has
  refine ⟨members.take n, fun a ha => hmembers a (List.mem_of_mem_take ha), funext fun i => ?_⟩
  rw [List.map_take]

theorem drop (has : Each Q as) (n : Nat) : Each Q fun i => (as i).drop n := by
  obtain ⟨members, hmembers, rfl⟩ := has
  refine ⟨members.drop n, fun a ha => hmembers a (List.mem_of_mem_drop ha), funext fun i => ?_⟩
  rw [List.map_drop]

theorem map {f : α → β} (has : Each Q as) (hf : ∀ a, Q a → Q' fun i => f (a i)) :
    Each Q' fun i => (as i).map f := by
  obtain ⟨members, hmembers, rfl⟩ := has
  refine ⟨members.map fun a i => f (a i), ?_, funext fun i => ?_⟩
  · intro b hb
    obtain ⟨a, ha, rfl⟩ := List.mem_map.mp hb
    exact hf a (hmembers a ha)
  · rw [List.map_map, List.map_map]
    rfl

end Each

namespace Alike

variable {Q : (ι → α) → Prop} {Q' : (ι → β) → Prop}

theorem of_eq {x y : ι → Except Refusal α} (hxy : ∀ i, x i = y i) (hy : Alike Q y) : Alike Q x :=
  (funext hxy : x = y) ▸ hy

theorem ok {a : ι → α} (h : Q a) : Alike Q fun i => .ok (a i) := Or.inl ⟨a, h, fun _ => rfl⟩

theorem error (refusal : Refusal) : Alike Q fun _ => .error refusal :=
  Or.inr ⟨refusal.withoutValue, fun _ => rfl⟩

/-- A compilation that does not depend on the run. -/
theorem of_forall_eq {x : ι → Except Refusal α} (h : ∀ i j, x i = x j) :
    Alike (fun a => ∃ b, a = fun _ => b) x := by
  by_cases hrun : Nonempty ι
  · obtain ⟨j⟩ := hrun
    cases hj : x j with
    | ok a => exact (ok ⟨a, rfl⟩).of_eq fun i => (h i j).trans hj
    | error refusal => exact (error refusal).of_eq fun i => (h i j).trans hj
  · exact Or.inr ⟨.missingTable, fun i => absurd ⟨i⟩ hrun⟩

theorem bind {x : ι → Except Refusal α} {next : ι → α → Except Refusal β} (hx : Alike Q x)
    (hnext : ∀ a, Q a → Alike Q' fun i => next i (a i)) : Alike Q' fun i => x i >>= next i := by
  rcases hx with ⟨a, ha, hx⟩ | ⟨refusal, hx⟩
  · exact of_eq (fun i => by rw [hx i]; rfl) (hnext a ha)
  · refine Or.inr ⟨refusal, fun i => ?_⟩
    have hi := hx i
    cases hxi : x i with
    | ok a =>
        rw [hxi] at hi
        cases hi
    | error e =>
        rw [hxi] at hi
        cases hi
        show (x i >>= next i).mapError Refusal.withoutValue = _
        rw [hxi]
        rfl

theorem map {x : ι → Except Refusal α} {f : α → β} (hx : Alike Q x)
    (hf : ∀ a, Q a → Q' fun i => f (a i)) : Alike Q' fun i => (x i).map f :=
  of_eq (fun i => by cases x i <;> rfl) (hx.bind fun a ha => ok (hf a ha))

/-- The list is passed through in every run, or it stops at the same member. -/
theorem mapM {xs : List γ} {g : γ → ι → α} {f : α → Except Refusal β}
    (h : ∀ x ∈ xs, Alike Q' fun i => f (g x i)) :
    Alike (Each Q') fun i => (xs.map fun x => g x i).mapM f := by
  induction xs with
  | nil => exact ok .nil
  | cons x xs ih =>
      simp only [List.map_cons, List.mapM_cons]
      refine (h x List.mem_cons_self).bind fun b hb => ?_
      refine (ih fun y hy => h y (List.mem_cons_of_mem x hy)).bind fun bs hbs => ?_
      exact ok (hbs.cons hb)

theorem forM {xs : List γ} {g : γ → ι → α} {f : α → Except Refusal Unit}
    (h : ∀ x ∈ xs, Alike (fun _ => True) fun i => f (g x i)) :
    Alike (fun _ => True) fun i => (xs.map fun x => g x i).forM f := by
  induction xs with
  | nil => exact ok trivial
  | cons x xs ih =>
      refine (h x List.mem_cons_self).bind fun _ _ => ?_
      exact ih fun y hy => h y (List.mem_cons_of_mem x hy)

end Alike

/-! ## Fragments -/

namespace Fragment

variable {V : Varying ι → Prop} {f g : ι → Fragment}

/-- The fragments of all runs are those of one template, in which values with a property
vary. -/
def Steady (V : Varying ι → Prop) (f : ι → Fragment) : Prop :=
  ∃ t : Template ι, (∀ v ∈ t.params, V v) ∧ ∀ i, (f i).statement = t.statement i

theorem statement_append (f g : Fragment) : (f ++ g).statement
    = ⟨f.statement.sql ++ g.statement.sql, f.statement.params ++ g.statement.params⟩ := by
  simp only [statement, sql_eq_written, written_append, params_append]

theorem steady_text (s : String) : Steady V fun _ => text s := by
  refine ⟨⟨s, []⟩, fun _ hv => absurd hv List.not_mem_nil, fun i => ?_⟩
  rw [statement, sql_eq_written, written_text]
  rfl

theorem steady_nil : Steady V fun _ => [] :=
  ⟨⟨"", []⟩, fun _ hv => absurd hv List.not_mem_nil, fun _ => rfl⟩

theorem steady_bound {v : Varying ι} (hv : V v) : Steady V fun i => bound (v.value i) := by
  refine ⟨⟨Value.placeholder, [v]⟩, fun w hw => ?_, fun i => ?_⟩
  · cases List.mem_singleton.mp hw
    exact hv
  · rw [statement, sql_eq_written, written_bound]
    rfl

theorem Steady.append (hf : Steady V f) (hg : Steady V g) : Steady V fun i => f i ++ g i := by
  obtain ⟨t, ht, hf⟩ := hf
  obtain ⟨t', ht', hg⟩ := hg
  refine ⟨⟨t.sql ++ t'.sql, t.params ++ t'.params⟩, List.forall_mem_append.mpr ⟨ht, ht'⟩, ?_⟩
  intro i
  rw [statement_append, hf i, hg i]
  simp only [Template.statement, List.map_append]

theorem Steady.parenthesized (hf : Steady V f) : Steady V fun i => (f i).parenthesized :=
  ((steady_text "(").append hf).append (steady_text ")")

theorem steady_joined (separator : String) {fs : ι → List Fragment} (h : Each (Steady V) fs) :
    Steady V fun i => joined separator (fs i) := by
  obtain ⟨members, hmembers, rfl⟩ := h
  induction members with
  | nil => exact steady_nil
  | cons f gs ih =>
      obtain ⟨hf, hgs⟩ := List.forall_mem_cons.mp hmembers
      cases gs with
      | nil =>
          simp only [List.map_singleton, joined_singleton]
          exact hf
      | cons g gs =>
          simp only [List.map_cons, joined_cons_cons]
          exact (hf.append (steady_text separator)).append (ih hgs)

theorem steady_tuple {vs : List (Varying ι)} (h : ∀ v ∈ vs, V v) :
    Steady V fun i => tuple (vs.map fun v => v.value i) := by
  refine (steady_joined ", " ⟨vs.map fun v i => bound (v.value i), ?_,
    funext fun i => ?_⟩).parenthesized
  · intro f hf
    obtain ⟨v, hv, rfl⟩ := List.mem_map.mp hf
    exact steady_bound (h v hv)
  · rw [List.map_map, List.map_map]
    rfl

end Fragment

end BoundSql
