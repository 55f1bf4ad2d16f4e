import BoundSql.Proofs.Json.Grammar
import BoundSql.Proofs.Text.Split

/-!
# Written documents

The text of a document on one line is a text of the document (`spelledBy_compact`), and so is every
other text that the grammar allows.  This needs numbers that are read back as they were written:
integers of 64 bits (`Integral`).
-/

namespace BoundSql.Json

/-- The numbers of a document are integers of 64 bits, signed or not. -/
inductive Integral : Json → Prop
  | null : Integral .null
  | bool (b : Bool) : Integral (.bool b)
  | integer {n : Int} : -(twoPow 63 : Int) ≤ n → n < twoPow 64 → Integral (.integer n)
  | string (s : String) : Integral (.string s)
  | array {js : List Json} : (∀ j ∈ js, Integral j) → Integral (.array js)
  | object {ms : List (String × Json)} : (∀ m ∈ ms, Integral m.2) → Integral (.object ms)

theorem ends_cons {c : Char} (hc : c = ',' ∨ c = ']' ∨ c = '\x7d') (rest : List Char) :
    Ends (c :: rest) := by
  rintro d hd
  cases hd
  rcases hc with rfl | rfl | rfl <;> decide

/-- Texts behind commas. -/
def commas (texts : List String) : List Char := texts.flatMap fun s => ',' :: s.toList

theorem toList_intercalate (text : String) (texts : List String) :
    (String.intercalate "," (text :: texts)).toList = text.toList ++ commas texts :=
  Text.toList_intercalate "," text texts

theorem ends_commas (texts : List String) {c : Char} (hc : c = ']' ∨ c = '\x7d')
    (rest : List Char) : Ends (commas texts ++ c :: rest) := by
  cases texts with
  | nil => exact ends_cons (.inr hc) rest
  | cons text texts => exact ends_cons (.inl rfl) _

theorem toList_stringText (s : String) :
    (stringText s).toList = '"' :: (s.toList.flatMap escapeChar ++ ['"']) := by
  simp [stringText]

/-! ## Parts -/

/-- The document is spelled by its text on one line. -/
def Written (j : Json) : Prop :=
  ∀ rest, Ends rest → j.Spelled (j.compact.toList ++ rest) rest

theorem written_integer {n : Int} (hlow : -(twoPow 63 : Int) ≤ n) (hhigh : n < twoPow 64) :
    Written (.integer n) := by
  intro rest hrest
  have hread := readNumber_toString hlow hhigh hrest
  obtain ⟨c, cs, hcs, hc⟩ := head_of_readNumber hread
  have hspace : ¬ isSpace c = true := by
    intro hspace
    simp only [isSpace, Bool.or_eq_true, beq_iff_eq] at hspace
    rcases hspace with ((rfl | rfl) | rfl) | rfl <;> exact absurd hc (by decide)
  rw [Spelled, compact, hcs, List.dropWhile_cons_of_neg hspace, ← hcs]
  exact hread

theorem written_string (s : String) : Written (.string s) := by
  intro rest _
  rw [compact, toList_stringText, List.cons_append, List.append_assoc]
  exact ⟨_, next_cons (by decide) _, stringText_escape _ _⟩

theorem spelled_commas_items {js : List Json} (h : ∀ j ∈ js, Written j) (rest : List Char) :
    Spelled.items js false (commas (compact.items' js) ++ ']' :: rest) rest := by
  induction js with
  | nil => exact next_cons (by decide) _
  | cons j js ih =>
    obtain ⟨hj, hjs⟩ := List.forall_mem_cons.mp h
    rw [compact.items', commas, List.flatMap_cons, List.append_assoc]
    exact ⟨_, _, next_cons (by decide) _, hj _ (ends_commas _ (.inl rfl) rest), ih hjs⟩

theorem written_array {js : List Json} (h : ∀ j ∈ js, Written j) : Written (.array js) := by
  intro rest _
  refine ⟨(String.intercalate "," (compact.items' js)).toList ++ ']' :: rest, ?_, ?_⟩
  · rw [compact, String.toList_append, String.toList_append, List.append_assoc]
    exact next_cons (by decide) _
  · cases js with
    | nil => exact next_cons (by decide) _
    | cons j js =>
      obtain ⟨hj, hjs⟩ := List.forall_mem_cons.mp h
      rw [compact.items', toList_intercalate, List.append_assoc]
      exact ⟨_, _, rfl, hj _ (ends_commas _ (.inl rfl) rest), spelled_commas_items hjs rest⟩

theorem toList_member (name : String) (j : Json) (rest : List Char) :
    (stringText name ++ ":" ++ j.compact).toList ++ rest
      = '"' :: (name.toList.flatMap escapeChar ++ '"' :: ':' :: (j.compact.toList ++ rest)) := by
  rw [String.toList_append, String.toList_append, toList_stringText]
  simp

theorem spelled_commas_members {ms : List (String × Json)} (h : ∀ m ∈ ms, Written m.2)
    (rest : List Char) :
    Spelled.members ms false (commas (compact.members' ms) ++ '\x7d' :: rest) rest := by
  induction ms with
  | nil => exact next_cons (by decide) _
  | cons m ms ih =>
    obtain ⟨hm, hms⟩ := List.forall_mem_cons.mp h
    rw [compact.members', commas, List.flatMap_cons, List.append_assoc, List.cons_append,
      toList_member]
    exact ⟨_, _, _, _, _, next_cons (by decide) _, next_cons (by decide) _, stringText_escape _ _,
      next_cons (by decide) _, hm _ (ends_commas _ (.inr rfl) rest), ih hms⟩

theorem written_object {ms : List (String × Json)} (h : ∀ m ∈ ms, Written m.2) :
    Written (.object ms) := by
  intro rest _
  refine ⟨(String.intercalate "," (compact.members' ms)).toList ++ '\x7d' :: rest, ?_, ?_⟩
  · rw [compact, String.toList_append, String.toList_append, List.append_assoc]
    exact next_cons (by decide) _
  · cases ms with
    | nil => exact next_cons (by decide) _
    | cons m ms =>
      obtain ⟨hm, hms⟩ := List.forall_mem_cons.mp h
      rw [compact.members', toList_intercalate, List.append_assoc, toList_member]
      exact ⟨_, _, _, _, _, rfl, next_cons (by decide) _, stringText_escape _ _,
        next_cons (by decide) _, hm _ (ends_commas _ (.inr rfl) rest),
        spelled_commas_members hms rest⟩

/-! ## Documents -/

theorem Integral.written {j : Json} (h : j.Integral) : Written j := by
  induction h with
  | null => exact fun _ _ => next_cons (by decide) _
  | bool b => cases b <;> exact fun _ _ => next_cons (by decide) _
  | integer hlow hhigh => exact written_integer hlow hhigh
  | string s => exact written_string s
  | array _ ih => exact written_array ih
  | object _ ih => exact written_object ih

/-- What is written on one line is a text of the document. -/
theorem spelledBy_compact {j : Json} (h : j.Integral) : j.SpelledBy j.compact := by
  refine ⟨[], ?_, rfl⟩
  have hspelled := h.written [] (fun _ hc => nomatch hc)
  rwa [List.append_nil] at hspelled

end BoundSql.Json
