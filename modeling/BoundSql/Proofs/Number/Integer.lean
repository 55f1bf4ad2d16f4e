import BoundSql.Number.Integer

/-!
# Decimal digits and words

A number is written in digits that are read as the number, and it fits into a word if there is a
word for it.  An unsigned word is read from any digits that spell it (`SpellsUnsigned`), and from no
other text.
-/

namespace BoundSql

variable {n : Nat}

theorem isDigit_of_mem_toDigits {c : Char} (h : c ∈ Nat.toDigits 10 n) : isDigit c = true :=
  Nat.isDigit_of_mem_toDigits (by decide) (by decide) h

theorem digitsValue_toDigits : digitsValue (Nat.toDigits 10 n) = n :=
  Nat.ofDigitChars_ten_toDigits

/-- The word of an integer is the one that has its value. -/
theorem toWord?_eq_some_iff {n : Int} {w : Int64} : toWord? n = some w ↔ w.toInt = n := by
  constructor
  · intro h
    obtain ⟨⟨hlow, hhigh⟩, hw⟩ := Option.ite_none_right_eq_some.mp h
    cases hw
    exact Int64.toInt_ofInt_of_le hlow (Int.lt_add_one_of_le hhigh)
  · rintro rfl
    have hlow : Int64.minValue.toInt ≤ w.toInt := w.le_toInt
    have hhigh : w.toInt ≤ Int64.maxValue.toInt := Int.le_of_lt_add_one w.toInt_lt
    rw [toWord?, if_pos ⟨hlow, hhigh⟩, Int64.ofInt_toInt]

/-! ## Digits -/

/-- Decimal digits, at least one. -/
def IsDigits (ds : List Char) : Prop := ds ≠ [] ∧ ∀ c ∈ ds, '0' ≤ c ∧ c ≤ '9'

theorem isDigit_iff {c : Char} : isDigit c = true ↔ '0' ≤ c ∧ c ≤ '9' := by simp [isDigit]

theorem readDigits?_eq_some_iff {ds : List Char} :
    readDigits? ds = some n ↔ IsDigits ds ∧ Nat.ofDigitChars 10 ds 0 = n := by
  have hvalue : digitsValue ds = Nat.ofDigitChars 10 ds 0 := rfl
  rw [readDigits?, hvalue, Option.ite_none_right_eq_some]
  simp [IsDigits, isDigit_iff]

/-! ## Unsigned words -/

/-- The text consists of digits that spell the number, with at most a plus in front of them. -/
def SpellsUnsigned (text : String) (n : Nat) : Prop :=
  ∃ ds : List Char, (text.toList = ds ∨ text.toList = '+' :: ds) ∧ IsDigits ds
    ∧ Nat.ofDigitChars 10 ds 0 = n

theorem readNatural?_eq_some_iff {text : String} :
    readNatural? text = some n ↔ SpellsUnsigned text n := by
  simp only [readNatural?, SpellsUnsigned, ← readDigits?_eq_some_iff]
  split
  next cs hcs =>
    rw [hcs]
    constructor
    · exact fun h => ⟨cs, .inr rfl, h⟩
    · rintro ⟨ds, rfl | heq, h⟩
      -- A plus is no digit.
      · exact absurd ((readDigits?_eq_some_iff.mp h).1.2 '+' List.mem_cons_self) (by decide)
      · exact (List.cons.inj heq).2 ▸ h
  next hplus =>
    constructor
    · exact fun h => ⟨_, .inl rfl, h⟩
    · rintro ⟨ds, rfl | heq, h⟩
      · exact h
      · exact absurd heq (hplus ds)

/-- An unsigned word is read from the texts that spell it. -/
theorem readUnsigned?_eq_some_iff {text : String} {w : UInt64} :
    readUnsigned? text = some w ↔ SpellsUnsigned text w.toNat := by
  rw [readUnsigned?, Option.bind_eq_some_iff]
  simp only [readNatural?_eq_some_iff, Option.ite_none_right_eq_some, Option.some_inj]
  constructor
  · rintro ⟨n, hspells, hn, rfl⟩
    rwa [UInt64.toNat_ofNat_of_lt' hn]
  · exact fun h => ⟨w.toNat, h, w.toNat_lt, UInt64.ofNat_toNat⟩

theorem SpellsUnsigned.unique {text : String} {m : Nat} (h : SpellsUnsigned text n)
    (h' : SpellsUnsigned text m) : n = m :=
  Option.some_inj.mp ((readNatural?_eq_some_iff.mpr h).symm.trans (readNatural?_eq_some_iff.mpr h'))

end BoundSql
