import BoundSql.Number.Power

/-!
# Double precision numbers

A double is kept as its 64 bits, so two doubles are equal as values of the type
exactly if they are the same word.  The sign of a zero and the payload of a NaN
take part.  Numeric equality is `Binary64.sameNumber`.

A finite double is `± m · 2^q` for the mantissa `m < 2^53` and the scale `q`.
Everything here is computed from `m` and `q` over natural numbers.
`Binary64.ofRatio` is the one place that rounds: it takes a quotient of natural
numbers to the nearest double, and a half goes to the even mantissa.
-/

namespace BoundSql

/-- A double, as the 64 bits of its IEEE 754 encoding. -/
structure Binary64 where
  /-- Sign, eleven exponent bits and 52 fraction bits. -/
  bits : UInt64
deriving DecidableEq, Repr, Inhabited

namespace Binary64

/-! ## Fields -/

/-- The sign bit is set. -/
def isNegative (x : Binary64) : Bool := decide (twoPow 63 ≤ x.bits.toNat)

/-- The eleven exponent bits. -/
def exponentField (x : Binary64) : Nat := x.bits.toNat / twoPow 52 % twoPow 11

/-- The 52 fraction bits. -/
def fraction (x : Binary64) : Nat := x.bits.toNat % twoPow 52

/-- Neither infinite nor a NaN. -/
def isFinite (x : Binary64) : Bool := x.exponentField != 2047

/-- Not a number. -/
def isNaN (x : Binary64) : Bool := x.exponentField == 2047 && x.fraction != 0

/-- One of the two infinities. -/
def isInfinite (x : Binary64) : Bool := x.exponentField == 2047 && x.fraction == 0

/-- One of the two zeros. -/
def isZero (x : Binary64) : Bool := x.exponentField == 0 && x.fraction == 0

/-- The integer `m` of a finite double `± m · 2^q`. -/
def mantissa (x : Binary64) : Nat :=
  if x.exponentField = 0 then x.fraction else twoPow 52 + x.fraction

/-- The exponent `q` of a finite double `± m · 2^q`. -/
def scale (x : Binary64) : Int := (max x.exponentField 1 : Nat) - 1075

/-- Equal as numbers: a NaN differs from everything and the zeros are one. -/
def sameNumber (x y : Binary64) : Bool :=
  !x.isNaN && !y.isNaN && (x.bits == y.bits || (x.isZero && y.isZero))

/-! ## Construction -/

/-- The same double with the given sign bit. -/
def withSign (negative : Bool) (magnitude : Nat) : Binary64 :=
  ⟨UInt64.ofNat (if negative then twoPow 63 + magnitude else magnitude)⟩

/-- The encoding of positive infinity. -/
def infinityBits : Nat := 0x7FF0000000000000

/-- The NaN with no payload and no sign. -/
def nan : Binary64 := ⟨0x7FF8000000000000⟩

/-- Positive or negative zero. -/
def zero (negative : Bool) : Binary64 := withSign negative 0

/-- The opposite sign. -/
def neg (x : Binary64) : Binary64 := withSign (!x.isNegative) (x.bits.toNat % twoPow 63)

/-- The quotient rounded to the nearest integer, a half to the even one. -/
def roundDiv (num den : Nat) : Nat :=
  let q := num / den
  let r := num % den
  if 2 * r < den then q
  else if den < 2 * r then q + 1
  else if q % 2 = 0 then q else q + 1

/-- The fraction `num / (den · 2^e)` as numerator and denominator. -/
def shiftRatio (num den : Nat) (e : Int) : Nat × Nat :=
  if 0 ≤ e then (num, den * twoPow e.toNat) else (num * twoPow (-e).toNat, den)

/-- The scale of the double nearest to `num / den`: the quotient over `2^q` has
53 bits, unless that takes `q` below the scale of the subnormal numbers. -/
def ratioScale (num den : Nat) : Int :=
  let guess : Int := (num.log2 : Int) - den.log2 - 52
  let (n, d) := shiftRatio num den guess
  max (if n < twoPow 52 * d then guess - 1 else guess) (-1074)

/-- The double nearest to `± num / den`, a half going to the even mantissa.
Quotients beyond the largest double give an infinity. -/
def ofRatio (negative : Bool) (num den : Nat) : Binary64 :=
  if num = 0 then zero negative
  else
    let q := ratioScale num den
    let (n, d) := shiftRatio num den q
    let word := (q + 1074).toNat * twoPow 52 + roundDiv n d
    withSign negative (min word infinityBits)

/-- The double nearest to an integer. -/
def ofInt (n : Int) : Binary64 := ofRatio (decide (n < 0)) n.natAbs 1

/-- The magnitude of a finite double as numerator and denominator. -/
def ratio (x : Binary64) : Nat × Nat := shiftRatio x.mantissa 1 (-x.scale)

/-- The rounded product of two finite doubles. -/
def mul (x y : Binary64) : Binary64 :=
  ofRatio (x.isNegative != y.isNegative) (x.ratio.1 * y.ratio.1) (x.ratio.2 * y.ratio.2)

/-- The rounded quotient of two finite doubles, the second not zero. -/
def div (x y : Binary64) : Binary64 :=
  ofRatio (x.isNegative != y.isNegative) (x.ratio.1 * y.ratio.2) (x.ratio.2 * y.ratio.1)

/-- The double with the value of a decimal `± digits · 10^exponent`. -/
def ofDecimal (negative : Bool) (digits : Nat) (exponent : Int) : Binary64 :=
  if 0 ≤ exponent then ofRatio negative (digits * tenPow exponent.toNat) 1
  else ofRatio negative digits (tenPow (-exponent).toNat)

/-- The double with the value of a single precision number, given by its bits. -/
def ofSingle (bits : UInt32) : Binary64 :=
  let negative := decide (twoPow 31 ≤ bits.toNat)
  let exponent := bits.toNat / twoPow 23 % twoPow 8
  let fraction := bits.toNat % twoPow 23
  if exponent = 255 then
    if fraction = 0 then withSign negative infinityBits else nan
  else
    let m := if exponent = 0 then fraction else twoPow 23 + fraction
    let (d, n) := shiftRatio 1 m ((max exponent 1 : Nat) - 150)
    ofRatio negative n d

/-! ## Tests -/

example : (ofRatio false 1 10).bits = 0x3FB999999999999A := by decide +kernel
example : (ofRatio true 1 3).bits = 0xBFD5555555555555 := by decide +kernel
example : (ofDecimal false 5 (-324)).bits = 1 := by decide +kernel
example : (ofDecimal false 1 309).bits = 0x7FF0000000000000 := by decide +kernel
example : (ofInt 9007199254740993).bits = 0x4340000000000000 := by decide +kernel
example : (ofSingle 0x3DCCCCCD).bits = 0x3FB99999A0000000 := by decide +kernel
example : (ofSingle 1).bits = 0x36A0000000000000 := by decide +kernel
example : sameNumber (zero true) (zero false) ∧ ¬ sameNumber nan nan := by decide +kernel

end Binary64

end BoundSql
