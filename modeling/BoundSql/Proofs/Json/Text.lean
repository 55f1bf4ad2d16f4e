import BoundSql.Json.Document
import BoundSql.Json.Text

/-!
# What a string of a JSON text spells

A string spells a list of characters.  Most characters stand for themselves, and every one can
be written by its code units, one if it is below `10000` and a pair of surrogates otherwise.
`StringText` says so without the machine that reads strings.

The machine reads exactly what is spelled (`stringBody_eq_ok`).  Passing over a string ends at
the same place (`skipStringBody_of_text`), and what is written is spelled (`stringText_escape`).
-/

namespace BoundSql.Json

/-! ## Spelling -/

/-- Four hexadecimal digits spell a code unit. -/
inductive UnitText : List Char → Nat → List Char → Prop
  | digits {a b c d : Char} {i j k l : Nat} {rest : List Char} :
      hexValue? a = some i → hexValue? b = some j → hexValue? c = some k → hexValue? d = some l →
      UnitText (a :: b :: c :: d :: rest) (16 * (16 * (16 * i + j) + k) + l) rest

/-- A text goes on with a string behind its opening quote.  The characters of the string, and
what stands behind its closing quote. -/
inductive StringText : List Char → List Char → List Char → Prop
  | close {rest : List Char} : StringText ('"' :: rest) [] rest
  | plain {c : Char} {cs ds rest : List Char} :
      c ≠ '"' → c ≠ '\\' → 0x20 ≤ c.toNat → StringText cs ds rest →
      StringText (c :: cs) (c :: ds) rest
  | escape {c e : Char} {cs ds rest : List Char} :
      escaped? c = some e → StringText cs ds rest → StringText ('\\' :: c :: cs) (e :: ds) rest
  | unit {n : Nat} {cs cs' ds rest : List Char} :
      UnitText cs n cs' → isHighSurrogate n = false → isLowSurrogate n = false →
      StringText cs' ds rest → StringText ('\\' :: 'u' :: cs) (Char.ofNat n :: ds) rest
  | pair {high low : Nat} {cs cs' cs'' ds rest : List Char} :
      UnitText cs high ('\\' :: 'u' :: cs') → isHighSurrogate high = true →
      UnitText cs' low cs'' → isLowSurrogate low = true → StringText cs'' ds rest →
      StringText ('\\' :: 'u' :: cs)
        (Char.ofNat (0x10000 + (high - 0xD800) * 0x400 + (low - 0xDC00)) :: ds) rest

theorem UnitText.length {cs rest : List Char} {n : Nat} (h : UnitText cs n rest) :
    cs.length = rest.length + 4 := by
  cases h
  rfl

theorem StringText.length_lt {cs ds rest : List Char} (h : StringText cs ds rest) :
    rest.length < cs.length := by
  induction h with
  | close => simp
  | plain _ _ _ _ ih => simp only [List.length_cons]; omega
  | escape _ _ ih => simp only [List.length_cons]; omega
  | unit hn _ _ _ ih =>
    have hlength := hn.length
    simp only [List.length_cons]
    omega
  | pair hhigh _ hlow _ _ ih =>
    have hlength := hhigh.length
    have hlength' := hlow.length
    simp only [List.length_cons] at hlength ⊢
    omega

/-! ## Code units -/

attribute [simp] stringFrom skipStringFrom

section

variable {acc cs cs' rest : List Char} {high : Option Nat} {n : Nat} {state : StringState}
  {e? : Option Char} {r : String × List Char}

/-- A digit that is not the last one of a code unit. -/
theorem stringFrom_digit {c : Char} {d left : Nat} (hc : hexValue? c = some d) (hleft : 2 ≤ left)
    (value : Nat) :
    stringFrom (.unit left value high) acc (c :: cs)
      = stringFrom (.unit (left - 1) (16 * value + d) high) acc cs := by
  have hmore : ¬ left ≤ 1 := by omega
  simp [hc, hmore]

/-- The machine takes the digits of a code unit one by one. -/
theorem stringFrom_unit (h : UnitText cs n cs') (hafter : afterUnit n high = .ok (state, e?))
    (acc : List Char) :
    stringFrom (.unit 4 0 high) acc cs = stringFrom state (e?.toList ++ acc) cs' := by
  obtain ⟨hi, hj, hk, hl⟩ := h
  rw [stringFrom_digit hi (by decide), stringFrom_digit hj (by decide),
    stringFrom_digit hk (by decide), Nat.mul_zero, Nat.zero_add, stringFrom, hl]
  simp only [if_pos (show 4 - 1 - 1 - 1 ≤ 1 by decide), hafter]
  cases e? <;> rfl

/-- A digit that is not the last one of a code unit. -/
theorem digit_of_stringFrom {left value : Nat} (hleft : 2 ≤ left)
    (h : stringFrom (.unit left value high) acc cs = .ok r) :
    ∃ c d cs', cs = c :: cs' ∧ hexValue? c = some d
      ∧ stringFrom (.unit (left - 1) (16 * value + d) high) acc cs' = .ok r := by
  cases cs with
  | nil => cases h
  | cons c cs =>
    rw [stringFrom] at h
    cases hc : hexValue? c with
    | none => rw [hc] at h; cases h
    | some d =>
      rw [hc] at h
      simp only [if_neg (show ¬ left ≤ 1 by omega)] at h
      exact ⟨c, d, cs, rfl, hc, h⟩

/-- Nothing but four digits gets past a code unit. -/
theorem unit_of_stringFrom (h : stringFrom (.unit 4 0 high) acc cs = .ok r) :
    ∃ n cs' state e?, UnitText cs n cs' ∧ afterUnit n high = .ok (state, e?)
      ∧ stringFrom state (e?.toList ++ acc) cs' = .ok r := by
  obtain ⟨a, i, cs₁, rfl, hi, h⟩ := digit_of_stringFrom (by decide) h
  obtain ⟨b, j, cs₂, rfl, hj, h⟩ := digit_of_stringFrom (by decide) h
  obtain ⟨c, k, cs₃, rfl, hk, h⟩ := digit_of_stringFrom (by decide) h
  cases cs₃ with
  | nil => cases h
  | cons d cs₄ =>
    rw [stringFrom] at h
    cases hl : hexValue? d with
    | none => rw [hl] at h; cases h
    | some l =>
      rw [hl] at h
      simp only [if_pos (show 4 - 1 - 1 - 1 ≤ 1 by decide)] at h
      rw [Nat.mul_zero, Nat.zero_add] at h
      split at h
      next => cases h
      next state e hafter => exact ⟨_, cs₄, state, some e, .digits hi hj hk hl, hafter, h⟩
      next state hafter => exact ⟨_, cs₄, state, none, .digits hi hj hk hl, hafter, h⟩

/-- Behind the first half of a pair the escape of the second one has to follow. -/
theorem pair_of_stringFrom {high : Nat}
    (h : stringFrom (.pairBackslash high) acc cs = .ok r) :
    ∃ cs', cs = '\\' :: 'u' :: cs' ∧ stringFrom (.unit 4 0 (some high)) acc cs' = .ok r := by
  cases cs with
  | nil => cases h
  | cons a cs =>
    rw [stringFrom] at h
    split at h
    next ha =>
      cases cs with
      | nil => cases h
      | cons b cs =>
        rw [stringFrom] at h
        split at h
        next hb => exact ⟨cs, by rw [ha, hb], h⟩
        next => cases h
    next => cases h

theorem afterUnit_none_eq_ok (h : afterUnit n none = .ok (state, e?)) :
    isHighSurrogate n = true ∧ state = .pairBackslash n ∧ e? = none
      ∨ isHighSurrogate n = false ∧ isLowSurrogate n = false ∧ state = .plain
          ∧ e? = some (Char.ofNat n) := by
  rw [afterUnit] at h
  cases hhigh : isHighSurrogate n with
  | true =>
    rw [hhigh] at h
    cases h
    exact .inl ⟨rfl, rfl, rfl⟩
  | false =>
    cases hlow : isLowSurrogate n with
    | true => rw [hhigh, hlow] at h; cases h
    | false =>
      rw [hhigh, hlow] at h
      cases h
      exact .inr ⟨rfl, rfl, rfl, rfl⟩

theorem afterUnit_some_eq_ok {high : Nat} (h : afterUnit n (some high) = .ok (state, e?)) :
    isLowSurrogate n = true ∧ state = .plain
      ∧ e? = some (Char.ofNat (0x10000 + (high - 0xD800) * 0x400 + (n - 0xDC00))) := by
  rw [afterUnit] at h
  cases hlow : isLowSurrogate n with
  | true =>
    rw [hlow] at h
    cases h
    exact ⟨rfl, rfl, rfl⟩
  | false => rw [hlow] at h; cases h

/-! ## The machine -/

/-- What is spelled is read. -/
theorem stringFrom_of_text {ds : List Char} (h : StringText cs ds rest) (acc : List Char) :
    stringFrom .plain acc cs = .ok (String.ofList (acc.reverse ++ ds), rest) := by
  have hcons : ∀ (e : Char) (acc ds : List Char),
      (e :: acc).reverse ++ ds = acc.reverse ++ e :: ds := fun e acc ds => by
    rw [List.reverse_cons, List.append_assoc]
    rfl
  induction h generalizing acc with
  | close => simp
  | plain hquote hslash hcontrol _ ih =>
    rw [stringFrom, if_neg hquote, if_neg hslash, if_neg (by omega), ih, hcons]
  | @escape c e _ _ _ he _ ih =>
    have hc : c ≠ 'u' := by
      rintro rfl
      cases he
    rw [stringFrom, if_neg (by decide), if_pos rfl, stringFrom, if_neg hc, he]
    exact (ih (e :: acc)).trans (by rw [hcons])
  | @unit n _ _ _ _ hn hhigh hlow _ ih =>
    have hafter : afterUnit n none = .ok (.plain, some (Char.ofNat n)) := by
      rw [afterUnit, hhigh, hlow]
      rfl
    rw [stringFrom, if_neg (by decide), if_pos rfl, stringFrom, if_pos rfl,
      stringFrom_unit hn hafter, Option.toList_some, List.singleton_append, ih, hcons]
  | @pair high low _ _ _ _ _ hu hhigh hu' hlow _ ih =>
    have hafter : afterUnit high none = .ok (.pairBackslash high, none) := by
      rw [afterUnit, hhigh]
      rfl
    have hafter' : afterUnit low (some high) = .ok (.plain,
        some (Char.ofNat (0x10000 + (high - 0xD800) * 0x400 + (low - 0xDC00)))) := by
      rw [afterUnit, hlow]
      rfl
    rw [stringFrom, if_neg (by decide), if_pos rfl, stringFrom, if_pos rfl,
      stringFrom_unit hu hafter, stringFrom, if_pos rfl, stringFrom, if_pos rfl,
      stringFrom_unit hu' hafter', Option.toList_some, List.singleton_append, ih, hcons]
    rfl

/-- Behind a backslash stands a letter, a code unit or a pair of them. -/
theorem escape_of_stringFrom (h : stringFrom .escape acc cs = .ok r) :
    ∃ e cs', stringFrom .plain (e :: acc) cs' = .ok r ∧ cs'.length < cs.length
      ∧ ∀ {ds rest}, StringText cs' ds rest → StringText ('\\' :: cs) (e :: ds) rest := by
  cases cs with
  | nil => cases h
  | cons d cs =>
    rw [stringFrom] at h
    split at h
    next hd =>
      subst hd
      obtain ⟨n, cs', state, e?, hn, hafter, h⟩ := unit_of_stringFrom h
      have hlength := hn.length
      rcases afterUnit_none_eq_ok hafter with ⟨hhigh, rfl, rfl⟩ | ⟨hhigh, hlow, rfl, rfl⟩
      · obtain ⟨cs₁, rfl, h⟩ := pair_of_stringFrom h
        obtain ⟨low, cs₂, state, e?, hn', hafter', h⟩ := unit_of_stringFrom h
        obtain ⟨hlow, rfl, rfl⟩ := afterUnit_some_eq_ok hafter'
        have hlength' := hn'.length
        simp only [List.length_cons] at hlength ⊢
        exact ⟨_, cs₂, h, by omega, .pair hn hhigh hn' hlow⟩
      · rw [List.length_cons]
        exact ⟨_, cs', h, by omega, .unit hn hhigh hlow⟩
    next =>
      cases he : escaped? d with
      | none => rw [he] at h; cases h
      | some e =>
        rw [he] at h
        exact ⟨e, cs, h, by simp, .escape he⟩

/-- What is read is spelled. -/
theorem text_of_stringFrom : ∀ (size : Nat) {acc cs rest : List Char} {s : String},
    cs.length ≤ size → stringFrom .plain acc cs = .ok (s, rest) →
      ∃ ds, StringText cs ds rest ∧ s = String.ofList (acc.reverse ++ ds)
  | _, _, [], _, _, _, h => nomatch h
  | size + 1, acc, c :: cs, rest, s, hsize, h => by
    rw [List.length_cons] at hsize
    rw [stringFrom] at h
    split at h
    next hquote =>
      cases h
      exact ⟨[], hquote ▸ .close, by simp⟩
    next hquote =>
      split at h
      next hslash =>
        obtain ⟨e, cs', h, hlength, htext⟩ := escape_of_stringFrom h
        obtain ⟨ds, hds, rfl⟩ := text_of_stringFrom size (by omega) h
        exact ⟨e :: ds, hslash ▸ htext hds, by simp⟩
      next hslash =>
        split at h
        next => cases h
        next hcontrol =>
          obtain ⟨ds, hds, rfl⟩ := text_of_stringFrom size (by omega) h
          exact ⟨c :: ds, .plain hquote hslash (by omega) hds, by simp⟩

theorem stringBody_eq_ok {s : String} :
    stringBody cs = .ok (s, rest) ↔ StringText cs s.toList rest := by
  constructor
  · intro h
    obtain ⟨ds, hds, rfl⟩ := text_of_stringFrom cs.length (Nat.le_refl _) h
    simpa using hds
  · intro h
    rw [stringBody, stringFrom_of_text h]
    simp

/-! ## Passing over -/

theorem skipStringFrom_digit {c : Char} {d left value : Nat} (hc : hexValue? c = some d)
    (hleft : 2 ≤ left) :
    skipStringFrom (.unit left value high) (c :: cs)
      = skipStringFrom (.unit (left - 1) 0 none) cs := by
  have hmore : ¬ left ≤ 1 := by omega
  simp [hc, hmore]

theorem skipStringFrom_unit (h : UnitText cs n cs') :
    skipStringFrom (.unit 4 0 none) cs = skipStringFrom .plain cs' := by
  obtain ⟨hi, hj, hk, hl⟩ := h
  rw [skipStringFrom_digit hi (by decide), skipStringFrom_digit hj (by decide),
    skipStringFrom_digit hk (by decide), skipStringFrom, hl, if_neg (by simp),
    if_pos (by decide)]

theorem skipStringFrom_of_text {ds : List Char} (h : StringText cs ds rest) :
    skipStringFrom .plain cs = .ok rest := by
  induction h with
  | close => simp
  | plain hquote hslash hcontrol _ ih =>
    rw [skipStringFrom, if_neg hquote, if_neg hslash, if_neg (by omega), ih]
  | @escape c e _ _ _ he _ ih =>
    have hc : c ≠ 'u' := by
      rintro rfl
      cases he
    rw [skipStringFrom, if_neg (by decide), if_pos rfl, skipStringFrom, if_neg hc, he]
    exact ih
  | unit hn _ _ _ ih =>
    rw [skipStringFrom, if_neg (by decide), if_pos rfl, skipStringFrom, if_pos rfl,
      skipStringFrom_unit hn, ih]
  | pair hu _ hu' _ _ ih =>
    rw [skipStringFrom, if_neg (by decide), if_pos rfl, skipStringFrom, if_pos rfl,
      skipStringFrom_unit hu, skipStringFrom, if_neg (by decide), if_pos rfl, skipStringFrom,
      if_pos rfl, skipStringFrom_unit hu', ih]

theorem skipStringBody_of_text {ds : List Char} (h : StringText cs ds rest) :
    skipStringBody cs = .ok ((), rest) := by
  rw [skipStringBody, skipStringFrom_of_text h]
  rfl

end

/-! ## Writing -/

theorem hexValue?_hexDigit {n : Nat} (h : n < 16) : hexValue? (hexDigit n) = some n := by
  have hall : ∀ n < 16, hexValue? (hexDigit n) = some n := by decide
  exact hall n h

/-- A character is written by a letter, by its code unit or as it is. -/
theorem escapeChar_cases (c : Char) :
    (∃ letter, escapeChar c = ['\\', letter] ∧ escaped? letter = some c)
      ∨ c.toNat < 0x20 ∧ escapeChar c
          = ['\\', 'u', '0', '0', hexDigit (c.toNat / 16), hexDigit (c.toNat % 16)]
      ∨ c ≠ '"' ∧ c ≠ '\\' ∧ 0x20 ≤ c.toNat ∧ escapeChar c = [c] := by
  rw [escapeChar]
  by_cases hquote : c = '"'
  · exact .inl ⟨_, if_pos hquote, by rw [hquote]; rfl⟩
  rw [if_neg hquote]
  by_cases hslash : c = '\\'
  · exact .inl ⟨_, if_pos hslash, by rw [hslash]; rfl⟩
  rw [if_neg hslash]
  by_cases hnewline : c = '\n'
  · exact .inl ⟨_, if_pos hnewline, hnewline ▸ rfl⟩
  rw [if_neg hnewline]
  by_cases hreturn : c = '\r'
  · exact .inl ⟨_, if_pos hreturn, hreturn ▸ rfl⟩
  rw [if_neg hreturn]
  by_cases htab : c = '\t'
  · exact .inl ⟨_, if_pos htab, htab ▸ rfl⟩
  rw [if_neg htab]
  by_cases hback : c = '\x08'
  · exact .inl ⟨_, if_pos hback, hback ▸ rfl⟩
  rw [if_neg hback]
  by_cases hfeed : c = '\x0c'
  · exact .inl ⟨_, if_pos hfeed, hfeed ▸ rfl⟩
  rw [if_neg hfeed]
  by_cases hcontrol : c.toNat < 0x20
  · exact .inr (.inl ⟨hcontrol, if_pos hcontrol⟩)
  · exact .inr (.inr ⟨hquote, hslash, by omega, if_neg hcontrol⟩)

/-- The code unit of a control character has two digits. -/
theorem unitText_control {n : Nat} (h : n < 0x20) (cs : List Char) :
    UnitText ('0' :: '0' :: hexDigit (n / 16) :: hexDigit (n % 16) :: cs) n cs := by
  have hzero : hexValue? '0' = some 0 := rfl
  have hhigh : hexValue? (hexDigit (n / 16)) = some (n / 16) := hexValue?_hexDigit (by omega)
  have hlow : hexValue? (hexDigit (n % 16)) = some (n % 16) := hexValue?_hexDigit (by omega)
  have hsum : 16 * (16 * (16 * 0 + 0) + n / 16) + n % 16 = n := by omega
  have htext : UnitText _ (16 * (16 * (16 * 0 + 0) + n / 16) + n % 16) cs :=
    .digits hzero hzero hhigh hlow
  rwa [hsum] at htext

/-- A character that is written is spelled. -/
theorem stringText_escapeChar {cs ds rest : List Char} (c : Char) (h : StringText cs ds rest) :
    StringText (escapeChar c ++ cs) (c :: ds) rest := by
  rcases escapeChar_cases c with ⟨letter, hc, hletter⟩ | ⟨hcontrol, hc⟩ | ⟨hquote, hslash, hc, hc'⟩
  · rw [hc]
    exact .escape hletter h
  · have hhigh : isHighSurrogate c.toNat = false := by
      simp only [isHighSurrogate, Bool.and_eq_false_iff, decide_eq_false_iff_not]
      omega
    have hlow : isLowSurrogate c.toNat = false := by
      simp only [isLowSurrogate, Bool.and_eq_false_iff, decide_eq_false_iff_not]
      omega
    have htext := StringText.unit (unitText_control hcontrol cs) hhigh hlow h
    rw [Char.ofNat_toNat] at htext
    rw [hc]
    exact htext
  · rw [hc']
    exact .plain hquote hslash hc h

/-- A string that is written is spelled behind its opening quote. -/
theorem stringText_escape (cs rest : List Char) :
    StringText (cs.flatMap escapeChar ++ '"' :: rest) cs rest := by
  induction cs with
  | nil => exact .close
  | cons c cs ih =>
    rw [List.flatMap_cons, List.append_assoc]
    exact stringText_escapeChar c ih

end BoundSql.Json
