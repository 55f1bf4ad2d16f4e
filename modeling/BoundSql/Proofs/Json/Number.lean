import BoundSql.Json.Document
import BoundSql.Json.Number
import BoundSql.Proofs.Number.Integer
import Mathlib.Data.List.Induction
import Mathlib.Data.List.TakeDrop
import Mathlib.Data.List.TakeWhile

/-!
# Numbers of a JSON text

A number has a whole part, and perhaps a sign, a fraction and an exponent (`Numeral`).  What is read
as a number is one (`numeral_of_readNumber`), so reading takes at least one character
(`length_lt_of_readNumber`), whatever comes of the number.

An integer of 64 bits, signed or not, is written in decimal digits without a leading zero.  What is
written is read back, as long as no character follows that would go on with it (`Ends`), and nothing
else is read as an integer (`readNumber_eq_integer_iff`).
-/

namespace BoundSql.Json

/-! ## Numerals -/

/-- The fraction of a number, if it has one. -/
inductive Fraction : List Char → Prop
  | none : Fraction []
  | digits {ds : List Char} : IsDigits ds → Fraction ('.' :: ds)

/-- The exponent of a number, if it has one. -/
inductive Exponent : List Char → Prop
  | none : Exponent []
  | digits {e : Char} {sign ds : List Char} : e ∈ ['e', 'E'] → sign ∈ [[], ['+'], ['-']] →
      IsDigits ds → Exponent (e :: (sign ++ ds))

/-- A number: perhaps a minus, digits of which the first one is no zero unless it is the only
one, perhaps a fraction, and perhaps an exponent. -/
inductive Numeral : List Char → Prop
  | parts {sign whole fraction exponent : List Char} : sign ∈ [[], ['-']] → IsDigits whole →
      (whole.head? = some '0' → whole = ['0']) → Fraction fraction → Exponent exponent →
      Numeral (sign ++ (whole ++ (fraction ++ exponent)))

/-- A number begins with a digit or a minus sign. -/
theorem Numeral.head {text : List Char} (h : Numeral text) :
    ∃ c cs, text = c :: cs ∧ (c = '-' || isDigit c) = true := by
  cases h with
  | @parts sign whole _ _ hsign hwhole =>
    simp only [List.mem_cons, List.not_mem_nil, or_false] at hsign
    rcases hsign with rfl | rfl
    · cases whole with
      | nil => exact absurd rfl hwhole.1
      | cons d ds =>
        have hd := isDigit_iff.mpr (hwhole.2 d List.mem_cons_self)
        exact ⟨d, _, rfl, by rw [hd, Bool.or_true]⟩
    · exact ⟨'-', _, rfl, rfl⟩

/-! ## The characters that are taken -/

section

variable {cs rest : List Char} {n : Number} {negative : Bool}

theorem digits_eq {ds behind : List Char} (h : digits cs = (ds, behind)) :
    cs = ds ++ behind ∧ (∀ c ∈ ds, '0' ≤ c ∧ c ≤ '9') ∧ ∀ c ∈ behind.head?, isDigit c = false := by
  rw [digits, List.span_eq_takeWhile_dropWhile, Prod.mk.injEq] at h
  obtain ⟨rfl, rfl⟩ := h
  refine ⟨List.takeWhile_append_dropWhile.symm,
    fun c hc => isDigit_iff.mp (List.mem_takeWhile_imp hc), fun c hc => ?_⟩
  have hhead := List.head?_dropWhile_not isDigit cs
  rw [Option.mem_def.mp hc] at hhead
  simpa using hhead

theorem rest_of_finish {x? : Option Binary64} (h : finish x? cs = .ok (n, rest)) : rest = cs := by
  cases x? with
  | none => cases h
  | some x =>
    cases h
    rfl

theorem rest_of_wholeNumber {s : Significand} (h : wholeNumber negative s cs = .ok (n, rest)) :
    rest = cs := by
  unfold wholeNumber at h
  split at h
  · exact rest_of_finish h
  · split at h
    · cases h
      rfl
    · split at h <;> (cases h; rfl)

/-- What is taken behind the letter of an exponent. -/
theorem digits_of_exponentPart {significand : Nat} {exponent : Int}
    (h : exponentPart negative significand exponent cs = .ok (n, rest)) :
    ∃ sign ds, sign ∈ [[], ['+'], ['-']] ∧ IsDigits ds ∧ cs = sign ++ (ds ++ rest) := by
  unfold exponentPart at h
  split at h
  next down cs' hsign =>
    have hcs : ∃ sign, sign ∈ [[], ['+'], ['-']] ∧ cs = sign ++ cs' := by
      split at hsign <;> cases hsign
      · exact ⟨['+'], by simp, rfl⟩
      · exact ⟨['-'], by simp, rfl⟩
      · exact ⟨[], by simp, rfl⟩
    obtain ⟨sign, hmem, rfl⟩ := hcs
    cases hdigits : digits cs' with
    | mk ds behind =>
      obtain ⟨rfl, hds, -⟩ := digits_eq hdigits
      rw [hdigits] at h
      cases ds with
      | nil => cases behind <;> cases h
      | cons d ds =>
        refine ⟨sign, d :: ds, hmem, ⟨List.cons_ne_nil d ds, hds⟩, ?_⟩
        simp only at h
        split at h
        · split at h
          · cases h
            rfl
          · cases h
        · rw [rest_of_finish h]

/-- An exponent behind its letter is one with it. -/
theorem exponent_of_exponentPart {significand : Nat} {exponent : Int} {e : Char}
    (he : e ∈ ['e', 'E']) (h : exponentPart negative significand exponent cs = .ok (n, rest)) :
    ∃ text, Exponent text ∧ e :: cs = text ++ rest := by
  obtain ⟨sign, ds, hsign, hds, rfl⟩ := digits_of_exponentPart h
  exact ⟨_, .digits he hsign hds, by simp⟩

/-- What is taken behind the point of a fraction. -/
theorem exponent_of_fractionPart {whole : Significand}
    (h : fractionPart negative whole cs = .ok (n, rest)) :
    ∃ ds text, IsDigits ds ∧ Exponent text ∧ cs = ds ++ (text ++ rest) := by
  unfold fractionPart at h
  cases hdigits : digits cs with
  | mk ds behind =>
    obtain ⟨rfl, hds, -⟩ := digits_eq hdigits
    rw [hdigits] at h
    cases ds with
    | nil => cases behind <;> cases h
    | cons d ds =>
      have hfraction : IsDigits (d :: ds) := ⟨List.cons_ne_nil d ds, hds⟩
      simp only at h
      split at h
      · obtain ⟨text, htext, hbehind⟩ := exponent_of_exponentPart (e := 'e') (by decide) h
        exact ⟨_, text, hfraction, htext, by rw [hbehind]⟩
      · obtain ⟨text, htext, hbehind⟩ := exponent_of_exponentPart (e := 'E') (by decide) h
        exact ⟨_, text, hfraction, htext, by rw [hbehind]⟩
      · exact ⟨_, [], hfraction, .none, by rw [rest_of_finish h, List.nil_append]⟩

/-- The whole part of a number, and what is done with what follows it. -/
theorem whole_of_unsignedNumber {r : Number × List Char} (h : unsignedNumber negative cs = .ok r) :
    ∃ ds behind, cs = ds ++ behind ∧ IsDigits ds ∧ (ds.head? = some '0' → ds = ['0'])
      ∧ (∀ c ∈ behind.head?, isDigit c = false)
      ∧ (match behind with
          | '.' :: tail => fractionPart negative (.pushAll ⟨0, 0, 0⟩ ds) tail
          | 'e' :: tail => exponentPart negative (Significand.pushAll ⟨0, 0, 0⟩ ds).value
              (Significand.pushAll ⟨0, 0, 0⟩ ds).dropped tail
          | 'E' :: tail => exponentPart negative (Significand.pushAll ⟨0, 0, 0⟩ ds).value
              (Significand.pushAll ⟨0, 0, 0⟩ ds).dropped tail
          | _ => wholeNumber negative (.pushAll ⟨0, 0, 0⟩ ds) behind) = .ok r := by
  unfold unsignedNumber at h
  cases hdigits : digits cs with
  | mk ds behind =>
    obtain ⟨rfl, hds, hbehind⟩ := digits_eq hdigits
    rw [hdigits] at h
    split at h
    next => cases h
    next => cases h
    next => cases h
    next hnil hcons hzero heq =>
      cases heq
      refine ⟨ds, behind, rfl, ⟨?_, hds⟩, ?_, hbehind, h⟩
      · rintro rfl
        cases behind with
        | nil => exact hnil rfl rfl
        | cons c cs => exact hcons c cs rfl rfl
      · intro hhead
        obtain ⟨tail, rfl⟩ := List.head?_eq_some_iff.mp hhead
        cases tail with
        | nil => rfl
        | cons d ds => exact (hzero d ds rfl).elim

/-- What is taken behind the sign of a number. -/
theorem numeral_of_unsignedNumber {sign : List Char} (hsign : sign ∈ [[], ['-']])
    (h : unsignedNumber negative cs = .ok (n, rest)) :
    ∃ text, Numeral text ∧ sign ++ cs = text ++ rest := by
  obtain ⟨ds, behind, rfl, hds, hlead, -, h⟩ := whole_of_unsignedNumber h
  have hwhole := fun {fraction exponent} =>
    @Numeral.parts sign ds fraction exponent hsign hds hlead
  split at h
  next tail =>
    obtain ⟨fraction, text, hfraction, htext, rfl⟩ := exponent_of_fractionPart h
    exact ⟨_, hwhole (.digits hfraction) htext, by simp⟩
  next tail =>
    obtain ⟨text, htext, hbehind⟩ := exponent_of_exponentPart (e := 'e') (by decide) h
    exact ⟨_, hwhole .none htext, by simp [hbehind]⟩
  next tail =>
    obtain ⟨text, htext, hbehind⟩ := exponent_of_exponentPart (e := 'E') (by decide) h
    exact ⟨_, hwhole .none htext, by simp [hbehind]⟩
  next => exact ⟨_, hwhole .none .none, by simp [rest_of_wholeNumber h]⟩

/-- What is read as a number is one. -/
theorem numeral_of_readNumber (h : readNumber cs = .ok (n, rest)) :
    ∃ text, Numeral text ∧ cs = text ++ rest := by
  unfold readNumber at h
  split at h
  next cs => exact numeral_of_unsignedNumber (show ['-'] ∈ _ by decide) h
  next => exact numeral_of_unsignedNumber (show [] ∈ _ by decide) h

theorem head_of_readNumber (h : readNumber cs = .ok (n, rest)) :
    ∃ c cs', cs = c :: cs' ∧ (c = '-' || isDigit c) = true := by
  obtain ⟨text, htext, rfl⟩ := numeral_of_readNumber h
  obtain ⟨c, cs, rfl, hc⟩ := htext.head
  exact ⟨c, cs ++ rest, rfl, hc⟩

theorem length_lt_of_readNumber (h : readNumber cs = .ok (n, rest)) : rest.length < cs.length := by
  obtain ⟨text, htext, rfl⟩ := numeral_of_readNumber h
  obtain ⟨c, cs, rfl, -⟩ := htext.head
  simp only [List.cons_append, List.length_cons, List.length_append]
  omega

end

/-! ## Digits -/

/-- No character follows that would go on with a number. -/
def Ends (rest : List Char) : Prop :=
  ∀ c ∈ rest.head?, isDigit c = false ∧ c ≠ '.' ∧ c ≠ 'e' ∧ c ≠ 'E'

/-- Digits in front of something that does not go on with them. -/
theorem digits_append {ds rest : List Char} (hds : ∀ c ∈ ds, isDigit c = true) (h : Ends rest) :
    digits (ds ++ rest) = (ds, rest) := by
  have htake : rest.takeWhile isDigit = [] := by
    cases rest with
    | nil => rfl
    | cons c cs => rw [List.takeWhile_cons, (h c rfl).1]; rfl
  have hdrop : rest.dropWhile isDigit = rest := by
    cases rest with
    | nil => rfl
    | cons c cs => rw [List.dropWhile_cons, (h c rfl).1]; rfl
  rw [digits, List.span_eq_takeWhile_dropWhile, List.takeWhile_append_of_pos hds, htake,
    List.dropWhile_append_of_pos hds, hdrop, List.append_nil]

/-! ## Significant digits -/

/-- A number only grows with its digits. -/
theorem le_ofDigitChars (ds : List Char) (value : Nat) : value ≤ Nat.ofDigitChars 10 ds value := by
  induction ds generalizing value with
  | nil => exact Nat.le_refl _
  | cons d ds ih =>
    rw [Nat.ofDigitChars_cons]
    exact Nat.le_trans (by omega) (ih _)

/-- Once a digit has been dropped, all others are. -/
theorem dropped_pushAll {s : Significand} (h : s.dropped ≠ 0) (ds : List Char) :
    (s.pushAll ds).dropped ≠ 0 := by
  induction ds generalizing s with
  | nil => exact h
  | cons d ds ih =>
    refine ih ?_
    rw [Significand.push]
    simp [h]

theorem push_of_lt {d : Char} {value taken : Nat}
    (h : 10 * value + (d.toNat - '0'.toNat) < twoPow 64) :
    Significand.push ⟨value, taken, 0⟩ d
      = ⟨10 * value + (d.toNat - '0'.toNat), taken + 1, 0⟩ :=
  if_pos (by rw [decide_eq_true h]; rfl)

theorem push_of_not_lt {d : Char} {value taken : Nat}
    (h : ¬ 10 * value + (d.toNat - '0'.toNat) < twoPow 64) :
    Significand.push ⟨value, taken, 0⟩ d = ⟨value, taken, 1⟩ :=
  if_neg (by rw [decide_eq_false h]; simp)

section

variable {ds : List Char} {value taken : Nat}

/-- The digits of a number that fits a word are all taken. -/
theorem pushAll_of_lt (h : Nat.ofDigitChars 10 ds value < twoPow 64) :
    Significand.pushAll ⟨value, taken, 0⟩ ds
      = ⟨Nat.ofDigitChars 10 ds value, taken + ds.length, 0⟩ := by
  induction ds generalizing value taken with
  | nil => rfl
  | cons d ds ih =>
    rw [Nat.ofDigitChars_cons] at h
    have hnext := Nat.lt_of_le_of_lt (le_ofDigitChars ds _) h
    rw [Significand.pushAll, List.foldl_cons, push_of_lt hnext, ← Significand.pushAll, ih h,
      Nat.ofDigitChars_cons, List.length_cons, Nat.add_assoc, Nat.add_comm 1]

/-- Of the digits of a number that does not fit some are dropped. -/
theorem pushAll_of_not_lt (hvalue : value < twoPow 64)
    (h : ¬ Nat.ofDigitChars 10 ds value < twoPow 64) :
    (Significand.pushAll ⟨value, taken, 0⟩ ds).dropped ≠ 0 := by
  induction ds generalizing value taken with
  | nil => exact absurd hvalue h
  | cons d ds ih =>
    rw [Nat.ofDigitChars_cons] at h
    rw [Significand.pushAll, List.foldl_cons]
    by_cases hnext : 10 * value + (d.toNat - '0'.toNat) < twoPow 64
    · rw [push_of_lt hnext]
      exact ih hnext h
    · rw [push_of_not_lt hnext]
      exact dropped_pushAll Nat.one_ne_zero ds

end

/-! ## Integers -/

/-- A number that is not zero has no leading zero. -/
theorem head?_toDigits {n : Nat} (h : 0 < n) : (Nat.toDigits 10 n).head? ≠ some '0' := by
  induction n using Nat.base_induction 10 (by decide) with
  | single m hm =>
    rw [Nat.toDigits_of_lt_base hm]
    simp
    omega
  | digit m k hk hm ih =>
    rw [← Nat.toDigits_append_toDigits (by decide) hm hk]
    cases hdigits : Nat.toDigits 10 m with
    | nil => exact absurd hdigits Nat.toDigits_ne_nil
    | cons c cs =>
      rw [hdigits] at ih
      exact ih hm

theorem unsignedNumber_toDigits {n : Nat} {rest : List Char} (negative : Bool)
    (hn : n < twoPow 64) (h : Ends rest) :
    unsignedNumber negative (Nat.toDigits 10 n ++ rest)
      = wholeNumber negative ⟨n, (Nat.toDigits 10 n).length, 0⟩ rest := by
  have hpush : Significand.pushAll ⟨0, 0, 0⟩ (Nat.toDigits 10 n)
      = ⟨n, (Nat.toDigits 10 n).length, 0⟩ := by
    rw [pushAll_of_lt (by rwa [Nat.ofDigitChars_ten_toDigits]), Nat.ofDigitChars_ten_toDigits,
      Nat.zero_add]
  have hzero : ∀ d ds, Nat.toDigits 10 n ≠ '0' :: d :: ds := by
    intro d ds hds
    cases Nat.eq_zero_or_pos n with
    | inl hn => subst hn; cases hds
    | inr hn => exact head?_toDigits hn (by rw [hds]; rfl)
  unfold unsignedNumber
  rw [digits_append (fun c => isDigit_of_mem_toDigits) h]
  split
  next heq => exact absurd (congrArg Prod.fst heq) Nat.toDigits_ne_nil
  next heq => exact absurd (congrArg Prod.fst heq) Nat.toDigits_ne_nil
  next heq => exact absurd (congrArg Prod.fst heq) (hzero _ _)
  next heq =>
    cases heq
    simp only [hpush]
    split
    next => exact absurd rfl (h _ rfl).2.1
    next => exact absurd rfl (h _ rfl).2.2.1
    next => exact absurd rfl (h _ rfl).2.2.2
    next => rfl

/-- Digits do not begin with a sign. -/
theorem toDigits_append_ne_sign (n : Nat) (rest cs : List Char) :
    Nat.toDigits 10 n ++ rest ≠ '-' :: cs := by
  cases hdigits : Nat.toDigits 10 n with
  | nil => exact absurd hdigits Nat.toDigits_ne_nil
  | cons c ds =>
    intro h
    have hc : isDigit c = true := isDigit_of_mem_toDigits (hdigits ▸ List.mem_cons_self)
    obtain ⟨rfl, -⟩ := List.cons.inj h
    exact absurd hc (by decide)

theorem toList_toString_ofNat (n : Nat) : (toString (n : Int)).toList = Nat.toDigits 10 n :=
  Nat.toList_repr

theorem toList_toString_neg (n : Nat) :
    (toString (-((n + 1 : Nat) : Int))).toList = '-' :: Nat.toDigits 10 (n + 1) := by
  rw [← Nat.toList_repr]
  exact String.toList_append

/-- An integer of 64 bits is read back. -/
theorem readNumber_toString {n : Int} {rest : List Char} (hlow : -(twoPow 63 : Int) ≤ n)
    (hhigh : n < twoPow 64) (h : Ends rest) :
    readNumber ((toString n).toList ++ rest) = .ok (.integer n, rest) := by
  cases n with
  | ofNat n =>
    have hn : n < twoPow 64 := Int.ofNat_lt.mp hhigh
    rw [show (toString (Int.ofNat n)).toList = _ from toList_toString_ofNat n, readNumber,
      unsignedNumber_toDigits false hn h]
    · rfl
    · exact fun cs => toDigits_append_ne_sign n rest cs
  | negSucc n =>
    have hlow : n + 1 ≤ twoPow 63 := by omega
    have hn : n + 1 < twoPow 64 := Nat.lt_of_le_of_lt hlow (by decide)
    rw [show (toString (Int.negSucc n)).toList = _ from toList_toString_neg n, List.cons_append,
      readNumber, unsignedNumber_toDigits true hn h, wholeNumber, if_neg (by simp),
      if_neg (by simp), if_neg (by simp; omega)]
    rfl

/-! ## What is read as an integer -/

theorem exists_digitChar {c : Char} (h : '0' ≤ c ∧ c ≤ '9') : ∃ k < 10, c = Nat.digitChar k := by
  have hlow : 48 ≤ c.toNat := h.1
  have hhigh : c.toNat ≤ 57 := h.2
  refine ⟨c.toNat - 48, by omega, Char.toNat_inj.mp ?_⟩
  rw [Nat.toNat_digitChar_of_lt_ten (by omega)]
  omega

/-- Digits without a leading zero are those of the number that they spell. -/
theorem toDigits_ofDigitChars {ds : List Char} (hds : IsDigits ds)
    (hlead : ds.head? = some '0' → ds = ['0']) :
    Nat.toDigits 10 (Nat.ofDigitChars 10 ds 0) = ds := by
  induction ds using List.reverseRecOn with
  | nil => exact absurd rfl hds.1
  | append_singleton ds d ih =>
    obtain ⟨hfront, hback⟩ := List.forall_mem_append.mp hds.2
    obtain ⟨k, hk, rfl⟩ := exists_digitChar (hback d List.mem_cons_self)
    rw [Nat.ofDigitChars_append, Nat.ofDigitChars_cons_digitChar_of_lt_ten hk, Nat.ofDigitChars_nil]
    cases ds with
    | nil => rw [Nat.ofDigitChars_nil, Nat.mul_zero, Nat.zero_add, Nat.toDigits_of_lt_base hk]; rfl
    | cons c cs =>
      have hc : c ≠ '0' := by
        rintro rfl
        simpa using hlead rfl
      have hdigits := ih ⟨List.cons_ne_nil c cs, hfront⟩ fun h => absurd (Option.some_inj.mp h) hc
      have hpos : 0 < Nat.ofDigitChars 10 (c :: cs) 0 := by
        refine Nat.pos_of_ne_zero fun hzero => hc ?_
        rw [hzero] at hdigits
        exact (List.cons.inj hdigits).1.symm
      rw [← Nat.toDigits_append_toDigits (by decide) hpos hk, hdigits, Nat.toDigits_of_lt_base hk]

section

variable {cs rest : List Char} {n : Int} {negative : Bool} {s : Significand}

theorem finish_ne_integer {x? : Option Binary64} : finish x? cs ≠ .ok (.integer n, rest) := by
  cases x? <;> exact nofun

theorem exponentPart_ne_integer {significand : Nat} {exponent : Int} :
    exponentPart negative significand exponent cs ≠ .ok (.integer n, rest) := by
  intro h
  unfold exponentPart at h
  split at h
  split at h
  · cases h
  · cases h
  · simp only at h
    split at h
    · split at h <;> cases h
    · exact finish_ne_integer h

theorem fractionPart_ne_integer : fractionPart negative s cs ≠ .ok (.integer n, rest) := by
  intro h
  unfold fractionPart at h
  split at h
  · cases h
  · cases h
  · simp only at h
    split at h
    · exact exponentPart_ne_integer h
    · exact exponentPart_ne_integer h
    · exact finish_ne_integer h

/-- An integer is the significand with its sign, of which no digit was dropped. -/
theorem integer_of_wholeNumber (h : wholeNumber negative s cs = .ok (.integer n, rest)) :
    s.dropped = 0 ∧ (negative = false ∧ n = s.value
      ∨ negative = true ∧ s.value ≠ 0 ∧ s.value ≤ twoPow 63 ∧ n = -s.value) := by
  unfold wholeNumber at h
  split at h
  · exact absurd h finish_ne_integer
  next hdropped =>
    refine ⟨not_not.mp hdropped, ?_⟩
    split at h
    next hsign =>
      cases h
      exact .inl ⟨by simpa using hsign, rfl⟩
    next hsign =>
      split at h
      · cases h
      next hvalue =>
        cases h
        simp only [Bool.or_eq_true, decide_eq_true_eq, not_or, Nat.not_lt] at hvalue
        exact .inr ⟨by simpa using hsign, hvalue.1, hvalue.2, rfl⟩

/-- What has been read as an integer behind its sign. -/
theorem digits_of_unsignedNumber (h : unsignedNumber negative cs = .ok (.integer n, rest)) :
    ∃ m : Nat, m < twoPow 64 ∧ cs = Nat.toDigits 10 m ++ rest ∧ Ends rest
      ∧ (negative = false ∧ n = m ∨ negative = true ∧ m ≠ 0 ∧ m ≤ twoPow 63 ∧ n = -m) := by
  obtain ⟨ds, behind, rfl, hds, hlead, hbehind, h⟩ := whole_of_unsignedNumber h
  split at h
  · exact absurd h fractionPart_ne_integer
  · exact absurd h exponentPart_ne_integer
  · exact absurd h exponentPart_ne_integer
  next hpoint he hE =>
    obtain rfl := rest_of_wholeNumber h
    obtain ⟨hdropped, hvalue⟩ := integer_of_wholeNumber h
    have hlt : Nat.ofDigitChars 10 ds 0 < twoPow 64 :=
      not_not.mp fun hlarge => pushAll_of_not_lt (by decide) hlarge hdropped
    rw [pushAll_of_lt hlt] at hvalue
    refine ⟨_, hlt, by rw [toDigits_ofDigitChars hds hlead], fun c hc => ?_, hvalue⟩
    obtain ⟨tail, rfl⟩ := List.head?_eq_some_iff.mp hc
    refine ⟨hbehind c hc, ?_, ?_, ?_⟩ <;> rintro rfl
    · exact hpoint tail rfl
    · exact he tail rfl
    · exact hE tail rfl

/-- An integer is read from the digits of an integer of 64 bits. -/
theorem readNumber_eq_integer_iff :
    readNumber cs = .ok (.integer n, rest)
      ↔ -(twoPow 63 : Int) ≤ n ∧ n < twoPow 64 ∧ cs = (toString n).toList ++ rest ∧ Ends rest := by
  constructor
  · intro h
    unfold readNumber at h
    split at h
    · obtain ⟨m, hm, rfl, hends, ⟨hfalse, -⟩ | ⟨-, hzero, hlow, rfl⟩⟩ := digits_of_unsignedNumber h
      · cases hfalse
      · obtain ⟨m, rfl⟩ := Nat.exists_eq_succ_of_ne_zero hzero
        refine ⟨by omega, by omega, ?_, hends⟩
        rw [toList_toString_neg]
        rfl
    · obtain ⟨m, hm, rfl, hends, ⟨-, rfl⟩ | ⟨htrue, -⟩⟩ := digits_of_unsignedNumber h
      · refine ⟨by omega, by omega, ?_, hends⟩
        rw [toList_toString_ofNat]
      · cases htrue
  · rintro ⟨hlow, hhigh, rfl, hends⟩
    exact readNumber_toString hlow hhigh hends

end

end BoundSql.Json
