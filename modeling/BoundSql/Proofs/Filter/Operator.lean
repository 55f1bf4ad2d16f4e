import BoundSql.Proofs.Filter.WellFormed
import BoundSql.Proofs.Text.Words
import Mathlib.Data.List.Forall2

/-!
# The texts that name an operator

A text *names* an operator if it consists of the words of its symbol, in any case, with blanks
between them and possibly around them (`Operator.Names`).  These are the texts for which an operator
is found (`Operator.ofText?_eq_some_iff`), and so no text names two operators.

Nothing else is read off the text of an operator.  A filter is compiled alike if every text that
names an operator is replaced by the symbol of that operator (`Filter.compile_canonical`), and a
text that names none is shown in the refusal as it is.
-/

namespace BoundSql

/-! ## Operators -/

namespace Operator

/-- The text consists of the words of the symbol, in any case, with blanks between them. -/
def Names (s : String) (op : Operator) : Prop :=
  ∃ ws, Text.Spaced ws s
    ∧ List.Forall₂ (fun w v => Text.sameLetters w v) ws (Text.words op.symbol)

variable {s : String} {op op' : Operator}

theorem names_iff :
    op.Names s ↔ (Text.words s).map Text.lower = (Text.words op.symbol).map Text.lower := by
  have hforall : ∀ {ws vs : List String}, List.Forall₂ (fun w v => Text.sameLetters w v) ws vs
      ↔ ws.map Text.lower = vs.map Text.lower := by
    intro ws vs
    simp only [← List.forall₂_eq_eq_eq, List.forall₂_map_left_iff, List.forall₂_map_right_iff,
      Text.sameLetters_iff]
  rw [Names]
  simp only [hforall]
  constructor
  · rintro ⟨ws, hspaced, hlower⟩
    have hwords : ∀ w ∈ ws, Text.IsWord w := by
      rw [← Text.forall_isWord_map_lower, hlower, Text.forall_isWord_map_lower]
      exact fun _ => Text.isWord_of_mem_words
    rwa [hspaced.words_eq hwords]
  · exact fun h => ⟨Text.words s, (Text.words_eq_iff.mp rfl).2, h⟩

theorem mem_all (op : Operator) : op ∈ all := by
  cases op <;> decide

theorem squeeze_symbol (op : Operator) : Text.squeeze op.symbol = op.symbol := by
  have hall : ∀ op ∈ all, Text.squeeze op.symbol = op.symbol := by decide +kernel
  exact hall op op.mem_all

/-- No two symbols differ in case only. -/
theorem eq_of_lower_symbol (h : Text.lower op.symbol = Text.lower op'.symbol) : op = op' := by
  have hall : ∀ op ∈ all, ∀ op' ∈ all, Text.lower op.symbol = Text.lower op'.symbol → op = op' := by
    decide +kernel
  exact hall op op.mem_all op' op'.mem_all h

theorem lower_symbol_eq (h : ofText? s = some op) :
    Text.lower op.symbol = Text.lower (Text.squeeze s) := by
  rw [ofText?] at h
  have hsame := List.find?_some h
  rwa [Text.sameLetters_iff] at hsame

theorem ofText?_ne_none (h : Text.lower op.symbol = Text.lower (Text.squeeze s)) :
    ofText? s ≠ none := by
  intro hnone
  rw [ofText?, List.find?_eq_none] at hnone
  have hdiffers := hnone op op.mem_all
  rw [Text.sameLetters_iff] at hdiffers
  exact hdiffers h

/-- An operator is found for the texts that name it. -/
theorem ofText?_eq_some_iff : ofText? s = some op ↔ op.Names s := by
  rw [names_iff, ← Text.lower_squeeze_eq_iff, squeeze_symbol]
  constructor
  · exact fun h => (lower_symbol_eq h).symm
  · intro h
    obtain ⟨op', hfound⟩ := Option.ne_none_iff_exists'.mp (ofText?_ne_none h.symm)
    rw [hfound, eq_of_lower_symbol ((lower_symbol_eq hfound).trans h)]

theorem names_symbol (op : Operator) : op.Names op.symbol := names_iff.mpr rfl

theorem ofText?_eq_none_iff : ofText? s = none ↔ ∀ op : Operator, ¬ op.Names s := by
  simp only [Option.eq_none_iff_forall_ne_some, ne_eq, ofText?_eq_some_iff]

end Operator

/-! ## Predicates and filters -/

namespace Predicate

/-- The predicate with the symbol of its operator.  A text that names no operator stays. -/
def canonical : Predicate → Predicate
  | raw sql => raw sql
  | compare column operator value =>
      compare column ((Operator.ofText? operator).elim operator Operator.symbol) value

theorem ofText?_canonical (operator : String) :
    Operator.ofText? ((Operator.ofText? operator).elim operator Operator.symbol)
      = Operator.ofText? operator := by
  cases h : Operator.ofText? operator with
  | none => exact h
  | some op => exact Operator.ofText?_eq_some_iff.mpr op.names_symbol

theorem check_canonical (p : Predicate) : p.canonical.check = p.check := by
  cases p with
  | raw sql => rfl
  | compare column operator value =>
      rw [canonical, check, check, ofText?_canonical]
      cases h : Operator.ofText? operator <;> rfl

theorem render_canonical (p : Predicate) : p.canonical.render = p.render := by
  cases p with
  | raw sql => rfl
  | compare column operator value =>
      rw [canonical, render, render, ofText?_canonical]
      cases h : Operator.ofText? operator <;> rfl

end Predicate

namespace Filter

variable {f : Filter}

/-- The filter with the symbols of its operators. -/
def canonical (f : Filter) : Filter where
  conjuncts := f.conjuncts.map Predicate.canonical
  alternatives := f.alternatives.map Predicate.canonical

theorem compile_canonical (f : Filter) : f.canonical.compile = f.compile := by
  have hrender : Predicate.render ∘ Predicate.canonical = Predicate.render :=
    funext Predicate.render_canonical
  simp only [compile, canonical, ← List.map_append, List.forM_eq_forM, List.forM_map,
    List.mapM_map, Predicate.check_canonical, hrender]

/-- An operator is found for a text if and only if the text names it, and a text names one operator
at most.  Only the operator is used: with the symbols in the place of the texts every filter is
compiled alike, be it to the same condition or to the same refusal.  A text that names no operator
is shown if all predicates in front of it are well formed. -/
theorem compile_named (s : String) :
    (∀ op : Operator, Operator.ofText? s = some op ↔ op.Names s)
      ∧ (∀ op op' : Operator, op.Names s → op'.Names s → op = op')
      ∧ (∀ f : Filter, f.canonical.compile = f.compile)
      ∧ ∀ (f : Filter) (front : List Predicate) (column : String) (value : Value)
          (back : List Predicate),
          f.conjuncts ++ f.alternatives = front ++ .compare column s value :: back →
          (∀ p ∈ front, p.WellFormed) → (∀ op : Operator, ¬ op.Names s) →
          f.compile = .error (.unsupportedOperator s) := by
  refine ⟨fun op => Operator.ofText?_eq_some_iff, fun op op' h h' => ?_, compile_canonical,
    fun f front column value back hf hfront hs => ?_⟩
  · rw [← Operator.ofText?_eq_some_iff] at h h'
    exact Option.some.inj (h.symm.trans h')
  · have hfault : (Predicate.compare column s value).IllFormed (.unsupportedOperator s) :=
      .operator (Operator.ofText?_eq_none_iff.mpr hs)
    rw [compile_eq_error_iff, forM_eq_error_iff]
    exact ⟨front, _, back, hf, fun p hp => p.check_iff.1.mpr (hfront p hp),
      (Predicate.check_iff _).2 _ |>.mpr hfault⟩

/-- Trusted text, and an alternative with the sign of the Kelvin in the place of a letter. -/
def kelvin : Filter where
  conjuncts := [.raw "a = b"]
  alternatives := [.compare "c" "LI\u212AE" .null]

/-- Blanks and the case of letters do not matter, and a sign that is no letter of ASCII does. -/
theorem compile_named_kelvin : Operator.ofText? "\u00A0nOt\t\u3000iN " = some .notIn
    ∧ kelvin.compile = .error (.unsupportedOperator "LI\u212AE") := by
  constructor
  · have hbody : Text.Separated ["nOt", "iN"] ("nOt" ++ "\t\u3000" ++ "iN") :=
      .cons (by decide) (by decide) (.one "iN")
    have hspaced : Text.Spaced ["nOt", "iN"] "\u00A0nOt\t\u3000iN " :=
      ⟨"\u00A0", _, " ", by decide, by decide, by decide, hbody⟩
    have hsame : List.Forall₂ (fun w v => Text.sameLetters w v) ["nOt", "iN"]
        (Text.words Operator.notIn.symbol) := by
      decide +kernel
    exact ((compile_named _).1 .notIn).mpr ⟨_, hspaced, hsame⟩
  · refine (compile_named _).2.2.2 kelvin [.raw "a = b"] "c" .null [] rfl
      (List.forall_mem_singleton.mpr (.raw "a = b")) fun op hop => ?_
    have hnone : Operator.ofText? "LI\u212AE" = none := by decide +kernel
    cases hnone.symm.trans (((compile_named _).1 op).mpr hop)

end Filter

end BoundSql
