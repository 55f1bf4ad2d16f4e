import BoundSql.Number.Binary64
import BoundSql.Number.Integer

/-!
# Reading decimals

A decimal is a sign or none, digits with at most one point among or around them,
and an exponent or none, which is a letter `e` of either case, a sign or none,
and digits.  There is at least one digit in front of the exponent.  The double
that is read is the nearest one, an infinity if the decimal is too large.
-/

namespace BoundSql

/-- A decimal `± digits · 10^exponent` as it was read. -/
structure DecimalText where
  /-- There is a minus in front. -/
  negative : Bool
  /-- The digits without the point. -/
  digits : List Char
  /-- The power of ten. -/
  exponent : Int
  /-- There is neither a point nor an exponent. -/
  isInteger : Bool
deriving DecidableEq, Repr

namespace DecimalText

/-- Takes a sign off a text.  The flag says whether it is a minus. -/
def takeSign : List Char → Bool × List Char
  | '-' :: cs => (true, cs)
  | '+' :: cs => (false, cs)
  | cs => (false, cs)

/-- The exponent that is all of a text, if it is not empty. -/
def readExponent? : List Char → Option Int
  | [] => some 0
  | c :: cs =>
      if c = 'e' || c = 'E' then
        let (negative, ds) := takeSign cs
        (readDigits? ds).map fun n => if negative then -(n : Int) else (n : Int)
      else none

/-- Reads a whole text. -/
def read? (cs : List Char) : Option DecimalText :=
  let (negative, cs) := takeSign cs
  let (whole, rest) := cs.span isDigit
  let (fraction, tail) := match rest with
    | '.' :: rest' => rest'.span isDigit
    | _ => ([], rest)
  if whole.isEmpty && fraction.isEmpty then none
  else (readExponent? tail).map fun e =>
    ⟨negative, whole ++ fraction, e - fraction.length, rest.isEmpty⟩

/-- The powers of ten at which no decimal is between the least and the largest
double, whatever its first digit. -/
def farPower : Int := 400

/-- The nearest double. -/
def toBinary64 (d : DecimalText) : Binary64 :=
  let significant := d.digits.dropWhile (· == '0')
  let point := d.exponent + significant.length
  if significant.isEmpty then .zero d.negative
  else if farPower < point then .withSign d.negative Binary64.infinityBits
  else if point < -farPower then .zero d.negative
  else .ofDecimal d.negative (digitsValue significant) d.exponent

end DecimalText

/-- Reads a decimal as the nearest double. -/
def readBinary64? (s : String) : Option Binary64 :=
  (DecimalText.read? s.toList).map DecimalText.toBinary64

/-! ## Tests -/

example : (readBinary64? "20.50").map (·.bits) = some 0x4034800000000000 := by decide +kernel
example : (readBinary64? "-.5E+1").map (·.bits) = some 0xC014000000000000 := by decide +kernel
example : (readBinary64? "1e999999999").map (·.isInfinite) = some true := by decide +kernel
example : readBinary64? "." = none ∧ readBinary64? "1e" = none ∧ readBinary64? "1 " = none := by
  decide +kernel

end BoundSql
