import BoundSql.Text.Split
import Mathlib.Data.List.TakeDrop
import Mathlib.Data.List.TakeWhile

/-!
# Texts that are split where they were joined

A part without separators, with a separator behind it, is what is cut off in front.  The pieces on
the two sides of a separator have nothing to do with each other (`splitWhere_append_cons`), and so
parts that were joined by separators are the pieces.
-/

namespace BoundSql.Text

variable {separator : Char} {separates : Char → Bool} {cs front back : List Char}

/-! ## Joined texts -/

/-- What is done to a text part by part is done to the parts of a joined text. -/
theorem change_intercalate {change : String → String} {text : String} (hempty : change "" = "")
    (happend : ∀ s t, change (s ++ t) = change s ++ change t) (htext : change text = text) :
    ∀ ss : List String,
      change (String.intercalate text ss) = String.intercalate text (ss.map change)
  | [] => by rw [List.map_nil, String.intercalate_nil, hempty]
  | [s] => by rw [List.map_singleton, String.intercalate_singleton, String.intercalate_singleton]
  | s :: t :: ss => by
      rw [String.intercalate_cons_cons, happend, happend, htext,
        change_intercalate hempty happend htext (t :: ss)]
      exact String.intercalate_cons_cons.symm

theorem toList_intercalate (separator text : String) (texts : List String) :
    (String.intercalate separator (text :: texts)).toList
      = text.toList ++ texts.flatMap fun s => separator.toList ++ s.toList := by
  induction texts generalizing text with
  | nil => rw [String.intercalate_singleton, List.flatMap_nil, List.append_nil]
  | cons text' texts ih =>
    rw [String.intercalate_cons_cons, String.toList_append, String.toList_append, ih,
      List.flatMap_cons, List.append_assoc, List.append_assoc]

/-! ## Runs -/

theorem span_of_forall {p : Char → Bool} (h : ∀ c ∈ cs, p c = true) : cs.span p = (cs, []) := by
  rw [List.span_eq_takeWhile_dropWhile, List.takeWhile_eq_self_iff.mpr h,
    List.dropWhile_eq_nil_iff.mpr h]

theorem span_append_cons {p : Char → Bool} {c : Char} (h : ∀ c ∈ front, p c = true)
    (hc : p c = false) : (front ++ c :: back).span p = (front, c :: back) := by
  rw [List.span_eq_takeWhile_dropWhile, List.takeWhile_append_of_pos h,
    List.dropWhile_append_of_pos h, List.takeWhile_cons, List.dropWhile_cons, hc]
  simp

theorem dropWhile_of_forall {p : Char → Bool} (h : ∀ c ∈ cs, p c = false) :
    cs.dropWhile p = cs := by
  cases cs with
  | nil => rfl
  | cons c cs => rw [List.dropWhile_cons, h c List.mem_cons_self]; rfl

/-- Nothing is dropped from either side. -/
theorem dropBoth_of_forall {p : Char → Bool} (h : ∀ c ∈ cs, p c = false) :
    (((cs.dropWhile p).reverse).dropWhile p).reverse = cs := by
  have hreverse : ∀ c ∈ cs.reverse, p c = false := fun c hc => h c (List.mem_reverse.mp hc)
  rw [dropWhile_of_forall h, dropWhile_of_forall hreverse, List.reverse_reverse]

theorem forall_ne_of_not_mem (h : separator ∉ cs) : ∀ c ∈ cs, (c != separator) = true := by
  intro c hc
  rw [bne_iff_ne]
  rintro rfl
  exact h hc

/-! ## Cuts -/

theorem cutAt_of_not_mem (h : separator ∉ cs) : cutAt separator cs = (cs, none) := by
  rw [cutAt, span_of_forall (forall_ne_of_not_mem h)]

theorem cutAt_append (h : separator ∉ front) :
    cutAt separator (front ++ separator :: back) = (front, some back) := by
  rw [cutAt, span_append_cons (forall_ne_of_not_mem h) (bne_self_eq_false separator)]

theorem cutAtLast_append (h : separator ∉ back) :
    cutAtLast separator (front ++ separator :: back) = (some front, back) := by
  have hreverse : (front ++ separator :: back).reverse
      = back.reverse ++ separator :: front.reverse := by simp
  have hback : separator ∉ back.reverse := fun hmem => h (List.mem_reverse.mp hmem)
  rw [cutAtLast, hreverse, span_append_cons (forall_ne_of_not_mem hback)
    (bne_self_eq_false separator)]
  simp only [List.reverse_reverse]

/-! ## Pieces -/

/-- Pieces are those of the library. -/
theorem splitWhere_eq_splitOnP : splitWhere separates cs = cs.splitOnP separates := by
  induction cs with
  | nil => rfl
  | cons c cs ih =>
    show splitStep separates c (splitWhere separates cs) = _
    rw [List.splitOnP_cons_eq_if_modifyHead, ih]
    obtain ⟨piece, pieces, h⟩ := List.exists_cons_of_ne_nil (List.splitOnP_ne_nil separates cs)
    rw [h]
    rfl

/-- The pieces on the two sides of a separator are independent. -/
theorem splitWhere_append_cons {c : Char} (h : separates c = true) :
    splitWhere separates (front ++ c :: back)
      = splitWhere separates front ++ splitWhere separates back := by
  simp only [splitWhere_eq_splitOnP, List.splitOnP_append_cons front back h]

theorem splitWhere_of_forall (h : ∀ c ∈ cs, separates c = false) :
    splitWhere separates cs = [cs] := by
  rw [splitWhere_eq_splitOnP, List.splitOnP_eq_singleton h]

/-- Parts that are joined by separators are the pieces. -/
theorem splitWhere_joined {c : Char} (hc : separates c = true) {parts : List (List Char)}
    (hfront : ∀ c ∈ front, separates c = false)
    (hparts : ∀ part ∈ parts, ∀ c ∈ part, separates c = false) :
    splitWhere separates (front ++ parts.flatMap (c :: ·)) = front :: parts := by
  induction parts generalizing front with
  | nil =>
    rw [List.flatMap_nil, List.append_nil]
    exact splitWhere_of_forall hfront
  | cons part parts ih =>
    obtain ⟨hpart, hparts⟩ := List.forall_mem_cons.mp hparts
    rw [List.flatMap_cons, List.cons_append, splitWhere_append_cons hc,
      splitWhere_of_forall hfront, ih hpart hparts, List.singleton_append]

end BoundSql.Text
