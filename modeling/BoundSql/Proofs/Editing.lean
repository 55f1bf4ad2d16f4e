import Mathlib.Data.List.Basic

/-!
# Edits of parts

Something is made by edits, one after the other.  Each edit touches some parts of the thing, and
edits that touch no common part commute (`Editing`).

Two sequences of edits *agree* if every part is touched by the same edits in the same order, however
the edits of different parts are interleaved (`Editing.Agree`).  Then they make the same thing
(`Editing.Agree.run_eq`).  The first edit of the one sequence has a place in the other one, behind
edits that touch none of its parts, and from there it can be brought to the front.

An edit of a part that is always overwritten is lost as soon as the part is edited again
(`Editing.Overwritten.run_eq`).
-/

namespace BoundSql

/-- How a thing is edited part by part. -/
structure Editing (σ ε κ : Type) where
  /-- What an edit makes of the thing. -/
  apply : σ → ε → σ
  /-- The parts that an edit touches. -/
  parts : ε → List κ
  parts_ne_nil (e : ε) : parts e ≠ []
  /-- Edits that touch no common part commute. -/
  comm (s : σ) (e e' : ε) :
    (parts e).Disjoint (parts e') → apply (apply s e) e' = apply (apply s e') e

namespace Editing

variable {σ ε κ : Type} (E : Editing σ ε κ)

/-- What some edits make of the thing, one after the other. -/
def run (s : σ) (es : List ε) : σ := es.foldl E.apply s

/-- The edits that touch a part. -/
def on [DecidableEq κ] (k : κ) (es : List ε) : List ε := es.filter (k ∈ E.parts ·)

/-- Every part is touched by the same edits, in the same order. -/
def Agree [DecidableEq κ] (es es' : List ε) : Prop := ∀ k, E.on k es = E.on k es'

/-- An edit of the part replaces all that an edit of this part alone did. -/
def Overwritten (k : κ) : Prop :=
  ∀ s e e', E.parts e = [k] → k ∈ E.parts e' → E.apply (E.apply s e) e' = E.apply s e'

variable {E} {s : σ} {e e' : ε} {es es' front back : List ε} {k : κ}

theorem run_append : E.run s (es ++ es') = E.run (E.run s es) es' := List.foldl_append

theorem run_cons : E.run s (e :: es) = E.run (E.apply s e) es := rfl

/-! ## Edits in another order -/

/-- An edit can be brought to the front, past edits that touch none of its parts. -/
theorem run_bring (h : ∀ e' ∈ front, (E.parts e).Disjoint (E.parts e')) :
    E.run s (front ++ e :: back) = E.run (E.apply s e) (front ++ back) := by
  induction front generalizing s with
  | nil => rfl
  | cons e' front ih =>
    obtain ⟨hdisjoint, hfront⟩ := List.forall_mem_cons.mp h
    rw [List.cons_append, run_cons, ih hfront, List.cons_append, run_cons, E.comm s e e' hdisjoint]

section

variable [DecidableEq κ]

theorem on_append : E.on k (es ++ es') = E.on k es ++ E.on k es' := List.filter_append es es'

theorem on_cons_of_mem (h : k ∈ E.parts e) : E.on k (e :: es) = e :: E.on k es :=
  List.filter_cons_of_pos (decide_eq_true h)

theorem on_cons_of_not_mem (h : k ∉ E.parts e) : E.on k (e :: es) = E.on k es :=
  List.filter_cons_of_neg (mt of_decide_eq_true h)

theorem on_eq_nil (h : ∀ e' ∈ es, k ∉ E.parts e') : E.on k es = [] :=
  List.filter_eq_nil_iff.mpr fun e' he' => mt of_decide_eq_true (h e' he')

/-- If an edit is the first one on each of its parts, there are only edits of other parts in front
of it. -/
theorem exists_split (h : ∀ k ∈ E.parts e, (E.on k es).head? = some e) :
    ∃ front back, es = front ++ e :: back
      ∧ ∀ e' ∈ front, (E.parts e).Disjoint (E.parts e') := by
  induction es with
  | nil =>
    obtain ⟨k, hk⟩ := List.exists_mem_of_ne_nil _ (E.parts_ne_nil e)
    cases h k hk
  | cons x es ih =>
    by_cases hdisjoint : (E.parts e).Disjoint (E.parts x)
    · have hes : ∀ k ∈ E.parts e, (E.on k es).head? = some e := by
        intro k hk
        rw [← on_cons_of_not_mem (hdisjoint hk)]
        exact h k hk
      obtain ⟨front, back, rfl, hfront⟩ := ih hes
      exact ⟨x :: front, back, rfl, List.forall_mem_cons.mpr ⟨hdisjoint, hfront⟩⟩
    · -- the two touch a common part, on which both are the first
      obtain ⟨k, hk, hx⟩ : ∃ k, k ∈ E.parts e ∧ k ∈ E.parts x := by
        by_contra hnone
        exact hdisjoint fun k hk hx => hnone ⟨k, hk, hx⟩
      have hfirst := h k hk
      rw [on_cons_of_mem hx, List.head?_cons] at hfirst
      obtain rfl := Option.some.inj hfirst
      exact ⟨[], es, rfl, fun _ h => absurd h List.not_mem_nil⟩

/-- Where the first edit of a sequence is in another one that agrees with it. -/
theorem Agree.split (h : E.Agree (e :: es) es') :
    ∃ front back, es' = front ++ e :: back
      ∧ (∀ e' ∈ front, (E.parts e).Disjoint (E.parts e')) ∧ E.Agree es (front ++ back) := by
  have hfirst : ∀ k ∈ E.parts e, (E.on k es').head? = some e := by
    intro k hk
    rw [← h k, on_cons_of_mem hk, List.head?_cons]
  obtain ⟨front, back, rfl, hfront⟩ := exists_split hfirst
  refine ⟨front, back, rfl, hfront, fun k => ?_⟩
  have hk := h k
  rw [on_append] at hk ⊢
  by_cases hmem : k ∈ E.parts e
  · have hnone : E.on k front = [] := on_eq_nil fun e' he' hk' => hfront e' he' hmem hk'
    rw [hnone, on_cons_of_mem hmem, on_cons_of_mem hmem] at hk
    rw [hnone]
    exact (List.cons.inj hk).2
  · rwa [on_cons_of_not_mem hmem, on_cons_of_not_mem hmem] at hk

theorem Agree.eq_nil (h : E.Agree [] es) : es = [] := by
  cases es with
  | nil => rfl
  | cons e es =>
    obtain ⟨k, hk⟩ := List.exists_mem_of_ne_nil _ (E.parts_ne_nil e)
    cases (h k).trans (on_cons_of_mem hk)

/-- Sequences of edits that agree make the same thing. -/
theorem Agree.run_eq (h : E.Agree es es') : E.run s es = E.run s es' := by
  induction es generalizing s es' with
  | nil => rw [h.eq_nil]
  | cons e es ih =>
    obtain ⟨front, back, rfl, hfront, hrest⟩ := h.split
    rw [run_cons, run_bring hfront]
    exact ih hrest

end

/-! ## Edits that are lost -/

/-- Of the edits of a part that is always overwritten only the last one counts. -/
theorem Overwritten.run_eq (hk : E.Overwritten k) (he : E.parts e = [k]) (he' : k ∈ E.parts e')
    (s : σ) (front between back : List ε) :
    E.run s (front ++ e :: (between ++ e' :: back))
      = E.run s (front ++ (between ++ e' :: back)) := by
  rw [run_append, run_append, run_cons]
  generalize E.run s front = s
  induction between generalizing s with
  | nil => rw [List.nil_append, run_cons, hk s e e' he he', run_cons]
  | cons x between ih =>
    rw [List.cons_append, run_cons, run_cons]
    by_cases hx : k ∈ E.parts x
    · rw [hk s e x he hx]
    · have hdisjoint : (E.parts e).Disjoint (E.parts x) := by
        rw [he]
        exact List.singleton_disjoint.mpr hx
      rw [E.comm s e x hdisjoint, ih]

end Editing

end BoundSql
