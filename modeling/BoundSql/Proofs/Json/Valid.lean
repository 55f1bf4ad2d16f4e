import BoundSql.Proofs.Json.Grammar

/-!
# JSON texts

`Json.Phrase cs rest` says that the text `cs` begins with a JSON value, behind blanks, and goes on
with `rest`.  It does not say which document this is, and it knows of no reader: a number is any
numeral, however large.  A whole text is JSON if nothing but blanks follows (`Json.Valid`).

A text of a document is JSON (`Spelled.phrase`, `valid_of_spelledBy`).
-/

namespace BoundSql.Json

mutual

/-- A text begins with a JSON value. -/
inductive Phrase : List Char → List Char → Prop
  | word {w : String} {cs rest : List Char} : w ∈ ["null", "true", "false"] →
      cs.dropWhile isSpace = w.toList ++ rest → Phrase cs rest
  | number {text cs rest : List Char} : Numeral text → cs.dropWhile isSpace = text ++ rest →
      Phrase cs rest
  | string {cs cs' ds rest : List Char} : Next '"' cs cs' → StringText cs' ds rest → Phrase cs rest
  | array {cs cs' rest : List Char} : Next '[' cs cs' → ItemPhrases true cs' rest → Phrase cs rest
  | object {cs cs' rest : List Char} : Next '\x7b' cs cs' → MemberPhrases true cs' rest →
      Phrase cs rest

/-- A text begins with JSON values between commas and a closing bracket. -/
inductive ItemPhrases : Bool → List Char → List Char → Prop
  | close {first : Bool} {cs rest : List Char} : Next ']' cs rest → ItemPhrases first cs rest
  | item {first : Bool} {cs cs₁ cs₂ rest : List Char} : Separated first cs cs₁ → Phrase cs₁ cs₂ →
      ItemPhrases false cs₂ rest → ItemPhrases first cs rest

/-- A text begins with names and JSON values between commas and a closing brace. -/
inductive MemberPhrases : Bool → List Char → List Char → Prop
  | close {first : Bool} {cs rest : List Char} : Next '\x7d' cs rest → MemberPhrases first cs rest
  | member {first : Bool} {cs cs₁ cs₂ cs₃ cs₄ cs₅ name rest : List Char} :
      Separated first cs cs₁ → Next '"' cs₁ cs₂ → StringText cs₂ name cs₃ → Next ':' cs₃ cs₄ →
      Phrase cs₄ cs₅ → MemberPhrases false cs₅ rest → MemberPhrases first cs rest

end

/-- A whole text is JSON. -/
def Valid (s : String) : Prop := ∃ rest, Phrase s.toList rest ∧ ∀ c ∈ rest, isSpace c = true

/-- What a JSON value begins with. -/
theorem Phrase.head {cs rest : List Char} (h : Phrase cs rest) :
    ∃ c cs', Next c cs cs' ∧ (c ∈ ['n', 't', 'f', '"', '[', '\x7b', '-'] ∨ isDigit c = true) := by
  cases h with
  | word hw hcs =>
    simp only [List.mem_cons, List.not_mem_nil, or_false] at hw
    rcases hw with rfl | rfl | rfl
    · exact ⟨'n', _, hcs, .inl (by decide)⟩
    · exact ⟨'t', _, hcs, .inl (by decide)⟩
    · exact ⟨'f', _, hcs, .inl (by decide)⟩
  | number htext hcs =>
    obtain ⟨c, cs', rfl, hc⟩ := htext.head
    rw [Bool.or_eq_true, decide_eq_true_eq] at hc
    refine ⟨c, _, hcs, hc.imp (fun hminus => ?_) id⟩
    rw [hminus]
    decide
  | string hnext => exact ⟨'"', _, hnext, .inl (by decide)⟩
  | array hnext => exact ⟨'[', _, hnext, .inl (by decide)⟩
  | object hnext => exact ⟨'\x7b', _, hnext, .inl (by decide)⟩

theorem phrase_of_readNumber {cs rest : List Char} {n : Number}
    (h : readNumber (cs.dropWhile isSpace) = .ok (n, rest)) : Phrase cs rest := by
  obtain ⟨text, htext, hcs⟩ := numeral_of_readNumber h
  exact .number htext hcs

/-- A document is spelled by a JSON value. -/
theorem Spelled.phrase {j : Json} :
    ∀ {cs rest : List Char}, j.Spelled cs rest → Phrase cs rest := by
  induction j using Json.induction with
  | null => exact fun h => .word (w := "null") (by decide) h
  | bool b =>
    intro cs rest h
    cases b with
    | true => exact .word (w := "true") (by decide) h
    | false => exact .word (w := "false") (by decide) h
  | integer n => exact phrase_of_readNumber
  | float x => exact phrase_of_readNumber
  | string s =>
    rintro cs rest ⟨cs', hnext, htext⟩
    exact .string hnext htext
  | array js ih =>
    have hitems : ∀ {first cs rest}, Spelled.items js first cs rest →
        ItemPhrases first cs rest := by
      induction js with
      | nil => exact .close
      | cons j js ih' =>
        rintro first cs rest ⟨cs₁, cs₂, hsep, hj, hjs⟩
        exact .item hsep (ih j List.mem_cons_self hj)
          (ih' (fun j hj => @ih j (List.mem_cons_of_mem _ hj)) hjs)
    rintro cs rest ⟨cs', hnext, h⟩
    exact .array hnext (hitems h)
  | object ms ih =>
    have hmembers : ∀ {first cs rest}, Spelled.members ms first cs rest →
        MemberPhrases first cs rest := by
      induction ms with
      | nil => exact .close
      | cons m ms ih' =>
        rintro first cs rest ⟨cs₁, cs₂, cs₃, cs₄, cs₅, hsep, hquote, hname, hcolon, hj, hms⟩
        exact .member hsep hquote hname hcolon (ih m List.mem_cons_self hj)
          (ih' (fun m hm => @ih m (List.mem_cons_of_mem _ hm)) hms)
    rintro cs rest ⟨cs', hnext, h⟩
    exact .object hnext (hmembers h)

/-- A document does not begin with the bracket that closes an array. -/
theorem Spelled.next {j : Json} {cs rest : List Char} (h : j.Spelled cs rest) :
    ∃ c cs', Next c cs cs' ∧ c ≠ ']' := by
  obtain ⟨c, cs', hnext, hc⟩ := h.phrase.head
  refine ⟨c, cs', hnext, ?_⟩
  rintro rfl
  exact absurd hc (by decide)

/-- The text of a document is JSON. -/
theorem valid_of_spelledBy {j : Json} {s : String} (h : j.SpelledBy s) : Valid s := by
  obtain ⟨rest, hspelled, hrest⟩ := h
  exact ⟨rest, hspelled.phrase, List.all_eq_true.mp hrest⟩

end BoundSql.Json
