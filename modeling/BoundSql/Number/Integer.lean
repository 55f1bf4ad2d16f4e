import BoundSql.Number.Power

/-!
# Reading integers

Integers are read from ASCII decimal digits.  At least one digit is needed,
leading zeros are allowed, and nothing else is: no blanks, no separators.  A
signed reader takes one sign of either kind in front, an unsigned one only a
plus.  A number outside of the range of its type is not read.
-/

namespace BoundSql

/-- A digit of ASCII. -/
def isDigit (c : Char) : Bool := decide ('0' ≤ c) && decide (c ≤ '9')

/-- The number that a list of digits spells. -/
def digitsValue (cs : List Char) : Nat :=
  cs.foldl (fun n c => 10 * n + (c.toNat - '0'.toNat)) 0

/-- At least one digit and nothing else. -/
def readDigits? (cs : List Char) : Option Nat :=
  if !cs.isEmpty && cs.all isDigit then some (digitsValue cs) else none

/-- Digits behind at most one sign. -/
def readInteger? (s : String) : Option Int :=
  match s.toList with
  | '-' :: cs => (readDigits? cs).map fun n => -(n : Int)
  | '+' :: cs => (readDigits? cs).map fun n => (n : Int)
  | cs => (readDigits? cs).map fun n => (n : Int)

/-- Digits behind at most one plus. -/
def readNatural? (s : String) : Option Nat :=
  match s.toList with
  | '+' :: cs => readDigits? cs
  | cs => readDigits? cs

/-- The integer as a signed word, if it fits. -/
def toWord? (n : Int) : Option Int64 :=
  if Int64.minValue.toInt ≤ n ∧ n ≤ Int64.maxValue.toInt then some (Int64.ofInt n) else none

/-- Reads a signed word. -/
def readWord? (s : String) : Option Int64 := (readInteger? s).bind toWord?

/-- Reads an unsigned word. -/
def readUnsigned? (s : String) : Option UInt64 :=
  (readNatural? s).bind fun n => if n < twoPow 64 then some (UInt64.ofNat n) else none

/-! ## Tests -/

example : readWord? "-9223372036854775808" = some Int64.minValue := by decide +kernel
example : readWord? "9223372036854775808" = none := by decide +kernel
example : readWord? "+007" = some 7 ∧ readWord? "-" = none ∧ readWord? "" = none := by decide +kernel
example : readUnsigned? "+18446744073709551615" = some 18446744073709551615 := by decide +kernel
example : readUnsigned? "18446744073709551616" = none ∧ readUnsigned? "-0" = none := by decide +kernel

end BoundSql
