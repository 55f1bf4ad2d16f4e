import BoundSql.Proofs.Text.Split
import BoundSql.Text.Blank

/-!
# The words of a text

A text is *spaced out* from words if it consists of these words, in this order, with blanks between
any two of them, and possibly blanks in front and behind (`Spaced`).  Every text is spaced out from
its words, and from nothing else that has no blanks in it (`words_eq_iff`).

Lower case changes no blank, and so the words of a text in lower case are its words in lower case.
-/

namespace BoundSql.Text

/-- A text that is not empty and has no blanks in it. -/
def IsWord (w : String) : Prop := w ≠ "" ∧ ∀ c ∈ w.toList, isBlank c = false

/-- Words with blanks between them, and no blanks in front or behind. -/
inductive Separated : List String → String → Prop where
  | nil : Separated [] ""
  | one (w : String) : Separated [w] w
  | cons {w v : String} {ws : List String} {gap s : String} : isBlankText gap → gap ≠ "" →
      Separated (v :: ws) s → Separated (w :: v :: ws) (w ++ gap ++ s)

/-- Words with blanks between them, and possibly blanks in front and behind. -/
def Spaced (ws : List String) (s : String) : Prop :=
  ∃ front body back, s = front ++ body ++ back ∧ isBlankText front ∧ isBlankText back
    ∧ Separated ws body

variable {w v s t gap : String} {ws vs : List String}

/-! ## Blanks -/

theorem isBlankText_append : isBlankText (s ++ t) ↔ isBlankText s ∧ isBlankText t := by
  rw [isBlankText, String.toList_append, List.all_append, Bool.and_eq_true]
  rfl

/-- Words split at a blank.  What the words of a text are follows from this equation. -/
theorem words_append_cons {c : Char} (h : isBlank c) (front back : List Char) :
    words (.ofList (front ++ c :: back)) = words (.ofList front) ++ words (.ofList back) := by
  simp only [words, String.toList_ofList, splitWhere_append_cons h, List.filter_append,
    List.map_append]

theorem words_blank_append (h : isBlankText gap) (s : String) : words (gap ++ s) = words s := by
  obtain ⟨cs, rfl⟩ : ∃ cs, s = .ofList cs := ⟨s.toList, String.ofList_toList.symm⟩
  obtain ⟨gap', rfl⟩ : ∃ gap', gap = .ofList gap' := ⟨gap.toList, String.ofList_toList.symm⟩
  rw [isBlankText, String.toList_ofList, List.all_eq_true] at h
  rw [← String.ofList_append]
  induction gap' with
  | nil => rfl
  | cons c gap' ih =>
    obtain ⟨hc, hgap⟩ := List.forall_mem_cons.mp h
    exact (words_append_cons hc [] (gap' ++ cs)).trans (ih hgap)

/-- Words split at a gap. -/
theorem words_append (h : isBlankText gap) (hne : gap ≠ "") (s t : String) :
    words (s ++ gap ++ t) = words s ++ words t := by
  obtain ⟨c, cs, hgap⟩ := List.exists_cons_of_ne_nil (mt String.toList_eq_nil_iff.mp hne)
  rw [isBlankText, hgap, List.all_cons, Bool.and_eq_true] at h
  obtain ⟨hc, hcs⟩ := h
  have htext : s ++ gap ++ t = .ofList (s.toList ++ c :: (cs ++ t.toList)) := by
    simp [← String.toList_inj, hgap]
  have hback : words (.ofList (cs ++ t.toList)) = words t := by
    rw [String.ofList_append, String.ofList_toList]
    exact words_blank_append (by rwa [isBlankText, String.toList_ofList]) t
  rw [htext, words_append_cons hc, hback, String.ofList_toList]

theorem words_append_blank (h : isBlankText gap) (s : String) : words (s ++ gap) = words s := by
  by_cases hne : gap = ""
  · rw [hne, String.append_empty]
  · have hsplit := words_append h hne s ""
    rwa [String.append_empty, show words "" = [] from rfl, List.append_nil] at hsplit

/-! ## Spaced words -/

theorem words_of_isWord (h : IsWord w) : words w = [w] := by
  obtain ⟨hne, hblank⟩ := h
  have hnil : w.toList ≠ [] := mt String.toList_eq_nil_iff.mp hne
  simp [words, splitWhere_of_forall hblank, hnil]

theorem Separated.words_eq (h : Separated ws s) : (∀ w ∈ ws, IsWord w) → words s = ws := by
  induction h with
  | nil => exact fun _ => rfl
  | one w => exact fun hws => words_of_isWord (hws w List.mem_cons_self)
  | cons hblank hne _ ih =>
    intro hws
    obtain ⟨hw, hws⟩ := List.forall_mem_cons.mp hws
    rw [words_append hblank hne, words_of_isWord hw, ih hws, List.singleton_append]

theorem Spaced.words_eq (h : Spaced ws s) (hws : ∀ w ∈ ws, IsWord w) : words s = ws := by
  obtain ⟨front, body, back, rfl, hfront, hback, hbody⟩ := h
  rw [words_append_blank hback, words_blank_append hfront, hbody.words_eq hws]

/-- What stands in front of the first word becomes a part of it. -/
theorem Separated.prepend (x : String) (h : Separated (v :: ws) s) :
    Separated ((x ++ v) :: ws) (x ++ s) := by
  cases h with
  | one => exact .one (x ++ v)
  | cons hblank hne hs =>
    rw [← String.append_assoc, ← String.append_assoc]
    exact .cons hblank hne hs

theorem IsWord.append (hw : IsWord w) (hv : IsWord v) : IsWord (w ++ v) := by
  constructor
  · intro hempty
    exact hw.1 (String.append_eq_empty_iff.mp hempty).1
  · rw [String.toList_append]
    exact List.forall_mem_append.mpr ⟨hw.2, hv.2⟩

theorem Spaced.blank_append (hgap : isBlankText gap) (h : Spaced ws s) : Spaced ws (gap ++ s) := by
  obtain ⟨front, body, back, rfl, hfront, hback, hbody⟩ := h
  refine ⟨gap ++ front, body, back, ?_, isBlankText_append.mpr ⟨hgap, hfront⟩, hback, hbody⟩
  simp only [String.append_assoc]

/-- A word in front of spaced words is a part of the first of them if there are no blanks between
the two, and else it is one more word. -/
theorem Spaced.word_append (hw : IsWord w) (h : Spaced ws s) (hws : ∀ w ∈ ws, IsWord w) :
    ∃ vs, (∀ v ∈ vs, IsWord v) ∧ Spaced vs (w ++ s) := by
  obtain ⟨front, body, back, rfl, hfront, hback, hbody⟩ := h
  cases ws with
  | nil =>
    cases hbody
    refine ⟨[w], List.forall_mem_singleton.mpr hw, "", w, front ++ back, ?_, rfl,
      isBlankText_append.mpr ⟨hfront, hback⟩, .one w⟩
    simp only [String.append_empty, String.empty_append]
  | cons v ws =>
    obtain ⟨hv, hws'⟩ := List.forall_mem_cons.mp hws
    by_cases hempty : front = ""
    · refine ⟨(w ++ v) :: ws, List.forall_mem_cons.mpr ⟨hw.append hv, hws'⟩, "", w ++ body, back,
        ?_, rfl, hback, hbody.prepend w⟩
      simp only [hempty, String.empty_append, String.append_assoc]
    · refine ⟨w :: v :: ws, List.forall_mem_cons.mpr ⟨hw, hws⟩, "", w ++ front ++ body, back, ?_,
        rfl, hback, .cons hfront hempty hbody⟩
      simp only [String.empty_append, String.append_assoc]

/-- Every text is spaced out from words. -/
theorem exists_spaced (s : String) : ∃ ws, (∀ w ∈ ws, IsWord w) ∧ Spaced ws s := by
  obtain ⟨cs, rfl⟩ : ∃ cs, s = .ofList cs := ⟨s.toList, String.ofList_toList.symm⟩
  induction cs with
  | nil => exact ⟨[], fun _ h => absurd h List.not_mem_nil, "", "", "", rfl, rfl, rfl, .nil⟩
  | cons c cs ih =>
    obtain ⟨ws, hws, hspaced⟩ := ih
    rw [String.ofList_cons]
    cases hc : isBlank c with
    | true =>
      have hblank : isBlankText (String.singleton c) := by simp [isBlankText, hc]
      exact ⟨ws, hws, hspaced.blank_append hblank⟩
    | false =>
      have hword : IsWord (String.singleton c) := by simp [IsWord, ← String.toList_inj, hc]
      exact hspaced.word_append hword hws

/-- The words of a text are the words that it is spaced out from. -/
theorem words_eq_iff : words s = ws ↔ (∀ w ∈ ws, IsWord w) ∧ Spaced ws s := by
  constructor
  · rintro rfl
    obtain ⟨ws, hws, hspaced⟩ := exists_spaced s
    rw [hspaced.words_eq hws]
    exact ⟨hws, hspaced⟩
  · exact fun ⟨hws, hspaced⟩ => hspaced.words_eq hws

theorem separated_intercalate : ∀ ws : List String, Separated ws (String.intercalate " " ws)
  | [] => .nil
  | [w] => by
    rw [String.intercalate_singleton]
    exact .one w
  | w :: v :: ws => by
    rw [String.intercalate_cons_cons]
    exact .cons rfl (by decide) (separated_intercalate (v :: ws))

theorem isWord_of_mem_words (h : w ∈ words s) : IsWord w := (words_eq_iff.mp rfl).1 w h

/-- Words with one space between them are the words of the text. -/
theorem words_intercalate (h : ∀ w ∈ ws, IsWord w) : words (String.intercalate " " ws) = ws :=
  (separated_intercalate ws).words_eq h

/-! ## Lower case -/

theorem lower_append (s t : String) : lower (s ++ t) = lower s ++ lower t := by
  simp [lower, String.ofList_append]

theorem lower_intercalate (ws : List String) :
    lower (String.intercalate " " ws) = String.intercalate " " (ws.map lower) :=
  change_intercalate rfl lower_append rfl ws

theorem isBlank_of_visible {c : Char} (h : 0x20 < c.toNat ∧ c.toNat < 0x85) :
    isBlank c = false := by
  simp [isBlank, inRanges, blankRanges]
  omega

/-- Lower case changes letters of ASCII, and there is no blank among these. -/
theorem isBlank_toLower (c : Char) : isBlank c.toLower = isBlank c := by
  unfold Char.toLower
  split
  case isTrue h =>
    have hfirst : 65 ≤ c.toNat := UInt32.le_iff_toNat_le.mp h.1
    have hlast : c.toNat ≤ 90 := UInt32.le_iff_toNat_le.mp h.2
    have hlower : (c.val + 32).toNat = c.toNat + 32 := by
      rw [UInt32.toNat_add]
      exact Nat.mod_eq_of_lt (by show c.toNat + 32 < _; omega)
    rw [isBlank_of_visible (c := c) (by omega)]
    exact isBlank_of_visible (show 0x20 < (c.val + 32).toNat ∧ (c.val + 32).toNat < 0x85 by omega)
  case isFalse => rfl

theorem isWord_lower : IsWord (lower w) ↔ IsWord w := by
  have hempty : lower w = "" ↔ w = "" := by
    rw [lower, ← String.toList_eq_nil_iff, String.toList_ofList, List.map_eq_nil_iff,
      String.toList_eq_nil_iff]
  rw [IsWord, IsWord, ne_eq, hempty, lower, String.toList_ofList, List.forall_mem_map]
  simp only [isBlank_toLower]

theorem sameLetters_iff : sameLetters s t ↔ lower s = lower t := beq_iff_eq

theorem forall_isWord_map_lower : (∀ w ∈ ws.map lower, IsWord w) ↔ ∀ w ∈ ws, IsWord w := by
  simp only [List.forall_mem_map, isWord_lower]

/-- Squeezed texts are equal up to case if and only if their words are. -/
theorem lower_squeeze_eq_iff :
    lower (squeeze s) = lower (squeeze t) ↔ (words s).map lower = (words t).map lower := by
  have hwords : ∀ s, words (lower (squeeze s)) = (words s).map lower := by
    intro s
    rw [squeeze, lower_intercalate]
    exact words_intercalate (forall_isWord_map_lower.mpr fun _ => isWord_of_mem_words)
  constructor
  · intro h
    rw [← hwords s, ← hwords t, h]
  · intro h
    rw [squeeze, squeeze, lower_intercalate, lower_intercalate, h]

end BoundSql.Text
