import BoundSql.Proofs.Text.Words

/-!
# Squeezed texts

A text is *squeezed* if the only blanks in it are single spaces between two characters that are not
blank (`Squeezed`).  The squeezed form of a text is squeezed.  It has the characters of the text
that are not blank, in the same order (`nonblanks`), and the same words, where `Spaced` says what
the words of a text are, and not how they are found.  So squeezing once is enough, and two texts
have the same squeezed form if and only if they have the same words (`squeeze_canonical`).

Failures show statements in this form.  However a statement is spread over lines, the words in the
message of its rejection are the words that were sent.
-/

namespace BoundSql.Text

/-- The characters of a text that are not blank, in order. -/
def nonblanks (s : String) : List Char := s.toList.filter (!isBlank ·)

/-- The texts are spaced out from the same words. -/
def SameWords (s t : String) : Prop := ∃ ws, (∀ w ∈ ws, IsWord w) ∧ Spaced ws s ∧ Spaced ws t

/-- The only blanks are single spaces between two characters that are not blank. -/
def Squeezed (s : String) : Prop :=
  ∀ front c back, s.toList = front ++ c :: back → isBlank c →
    c = ' ' ∧ (∃ x ∈ front.getLast?, isBlank x = false) ∧ ∃ y ∈ back.head?, isBlank y = false

variable {w v s t gap : String} {ws : List String}

/-! ## Characters that are not blank -/

theorem nonblanks_append (s t : String) : nonblanks (s ++ t) = nonblanks s ++ nonblanks t := by
  rw [nonblanks, String.toList_append, List.filter_append]
  rfl

theorem nonblanks_of_blank (h : isBlankText gap) : nonblanks gap = [] := by
  rw [isBlankText, List.all_eq_true] at h
  exact List.filter_eq_nil_iff.mpr fun c hc => by simp [h c hc]

theorem nonblanks_of_isWord (h : IsWord w) : nonblanks w = w.toList :=
  List.filter_eq_self.mpr fun c hc => by simp [h.2 c hc]

theorem Separated.nonblanks_eq (h : Separated ws s) :
    (∀ w ∈ ws, IsWord w) → nonblanks s = ws.flatMap String.toList := by
  induction h with
  | nil => exact fun _ => rfl
  | one w =>
    intro hws
    rw [List.flatMap_singleton]
    exact nonblanks_of_isWord (hws w List.mem_cons_self)
  | cons hblank _ _ ih =>
    intro hws
    obtain ⟨hw, hws⟩ := List.forall_mem_cons.mp hws
    rw [nonblanks_append, nonblanks_append, nonblanks_of_blank hblank, nonblanks_of_isWord hw,
      ih hws, List.append_nil]
    rfl

/-- Apart from blanks a text consists of its words. -/
theorem Spaced.nonblanks_eq (h : Spaced ws s) (hws : ∀ w ∈ ws, IsWord w) :
    nonblanks s = ws.flatMap String.toList := by
  obtain ⟨front, body, back, rfl, hfront, hback, hbody⟩ := h
  rw [nonblanks_append, nonblanks_append, nonblanks_of_blank hfront, nonblanks_of_blank hback,
    hbody.nonblanks_eq hws, List.nil_append, List.append_nil]

theorem SameWords.nonblanks_eq (h : SameWords s t) : nonblanks s = nonblanks t := by
  obtain ⟨ws, hws, hs, ht⟩ := h
  rw [hs.nonblanks_eq hws, ht.nonblanks_eq hws]

/-! ## Words -/

theorem sameWords_iff : SameWords s t ↔ words s = words t := by
  constructor
  · rintro ⟨ws, hws, hs, ht⟩
    rw [hs.words_eq hws, ht.words_eq hws]
  · intro h
    obtain ⟨hws, hs⟩ := words_eq_iff.mp h
    exact ⟨words t, hws, hs, (words_eq_iff.mp rfl).2⟩

theorem words_squeeze (s : String) : words (squeeze s) = words s :=
  words_intercalate fun _ => isWord_of_mem_words

/-! ## Single spaces -/

theorem IsWord.exists_head? (h : IsWord w) : ∃ c ∈ w.toList.head?, isBlank c = false := by
  have hne : w.toList ≠ [] := mt String.toList_eq_nil_iff.mp h.1
  exact ⟨_, List.head?_eq_some_head hne, h.2 _ (List.head_mem hne)⟩

theorem IsWord.exists_getLast? (h : IsWord w) : ∃ c ∈ w.toList.getLast?, isBlank c = false := by
  have hne : w.toList ≠ [] := mt String.toList_eq_nil_iff.mp h.1
  exact ⟨_, List.getLast?_eq_some_getLast hne, h.2 _ (List.getLast_mem hne)⟩

/-- Where a list is cut that was joined at `x`: before it, at it or behind it. -/
theorem cut_joined {α : Type} {as bs front back : List α} {x c : α}
    (h : as ++ x :: bs = front ++ c :: back) :
    c ∈ as ∨ (front = as ∧ c = x ∧ back = bs)
      ∨ ∃ rest, front = as ++ x :: rest ∧ bs = rest ++ c :: back := by
  rcases List.append_eq_append_iff.mp h with ⟨rest, hfront, hrest⟩ | ⟨rest, has, hrest⟩
  · cases rest with
    | nil =>
      obtain ⟨rfl, rfl⟩ := List.cons.inj hrest
      exact Or.inr (Or.inl ⟨by rw [hfront, List.append_nil], rfl, rfl⟩)
    | cons y rest =>
      obtain ⟨rfl, hbs⟩ := List.cons.inj hrest
      exact Or.inr (Or.inr ⟨rest, hfront, hbs⟩)
  · cases rest with
    | nil =>
      obtain ⟨rfl, rfl⟩ := List.cons.inj hrest
      exact Or.inr (Or.inl ⟨by rw [has, List.append_nil], rfl, rfl⟩)
    | cons y rest =>
      obtain ⟨rfl, _⟩ := List.cons.inj hrest
      exact Or.inl (has ▸ List.mem_append_right front List.mem_cons_self)

theorem squeezed_of_isWord (h : IsWord w) : Squeezed w := by
  intro front c back hcut hblank
  have hmem : c ∈ w.toList := hcut ▸ List.mem_append_right front List.mem_cons_self
  cases (h.2 c hmem).symm.trans hblank

/-- A word and a space in front of a squeezed text that begins with no blank. -/
theorem Squeezed.word_append (h : Squeezed s) (hw : IsWord w)
    (hs : ∃ c ∈ s.toList.head?, isBlank c = false) : Squeezed (w ++ " " ++ s) := by
  intro front c back hcut hblank
  have hjoined : w.toList ++ ' ' :: s.toList = front ++ c :: back := by
    rw [← hcut, String.toList_append, String.toList_append, List.append_assoc]
    rfl
  rcases cut_joined hjoined with hmem | ⟨rfl, rfl, rfl⟩ | ⟨rest, rfl, hrest⟩
  · cases (hw.2 c hmem).symm.trans hblank
  · exact ⟨rfl, hw.exists_getLast?, hs⟩
  · obtain ⟨hspace, ⟨y, hlast, hy⟩, hnext⟩ := h rest c back hrest hblank
    have hlast' : y ∈ (w.toList ++ ' ' :: rest).getLast? := by
      rw [List.getLast?_append, List.getLast?_cons, hlast]
      rfl
    exact ⟨hspace, ⟨y, hlast', hy⟩, hnext⟩

/-- Words with one space between them. -/
theorem squeezed_intercalate : ∀ {ws : List String}, (∀ w ∈ ws, IsWord w) →
    Squeezed (String.intercalate " " ws)
  | [], _ => by
    intro front c back hcut
    cases front <;> cases hcut
  | [w], hws => by
    rw [String.intercalate_singleton]
    exact squeezed_of_isWord (hws w List.mem_cons_self)
  | w :: v :: ws, hws => by
    obtain ⟨hw, hws⟩ := List.forall_mem_cons.mp hws
    rw [String.intercalate_cons_cons]
    refine (squeezed_intercalate hws).word_append hw ?_
    obtain ⟨c, hhead, hc⟩ := (hws v List.mem_cons_self).exists_head?
    refine ⟨c, ?_, hc⟩
    rw [toList_intercalate, List.head?_append, hhead]
    rfl

/-- The squeezed form stands for all texts with the same words. -/
theorem squeeze_canonical (s t : String) :
    Squeezed (squeeze s)
      ∧ nonblanks (squeeze s) = nonblanks s
      ∧ SameWords (squeeze s) s
      ∧ squeeze (squeeze s) = squeeze s
      ∧ (squeeze s = squeeze t ↔ SameWords s t) := by
  have hsame : SameWords (squeeze s) s := sameWords_iff.mpr (words_squeeze s)
  refine ⟨squeezed_intercalate fun _ => isWord_of_mem_words, hsame.nonblanks_eq, hsame, ?_, ?_⟩
  · rw [squeeze, words_squeeze, squeeze]
  · rw [sameWords_iff]
    constructor
    · intro h
      rw [← words_squeeze s, h, words_squeeze]
    · intro h
      rw [squeeze, h, squeeze]

/-- A statement with wide spaces, line breaks and tabs between its words. -/
def broken : String := "\u3000SELECT *\n\t FROM\u00A0t "

/-- The words of a statement may stand on several lines, but they may not grow together. -/
theorem squeeze_canonical_broken :
    Squeezed "SELECT * FROM t"
      ∧ SameWords broken "SELECT * FROM t"
      ∧ ¬ SameWords broken "SELECT * FROMt" := by
  have hbroken : squeeze broken = "SELECT * FROM t" := by decide +kernel
  obtain ⟨hsqueezed, _, _, _, hsame⟩ := squeeze_canonical broken "SELECT * FROM t"
  obtain ⟨_, _, _, _, hother⟩ := squeeze_canonical broken "SELECT * FROMt"
  rw [hbroken] at hsqueezed hsame hother
  exact ⟨hsqueezed, hsame.mp (by decide +kernel), mt hother.mpr (by decide +kernel)⟩

end BoundSql.Text
