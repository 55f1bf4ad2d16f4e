import BoundSql.Driver.Connection
import BoundSql.Embedded.Token
import BoundSql.Number.Reading
import BoundSql.Number.Shortest

/-!
# Cells

A cell of the embedded database is nothing, an integer, a double, a text or
bytes, and any cell may be stored in any column.  A column has an *affinity*, the
kind of cell that it prefers.  A cell is converted to it if nothing is lost,
before it is stored, and before it is compared with a cell of another kind.

Between kinds, nothing comes before numbers, numbers before texts, and texts
before bytes.  Integers and doubles are compared as numbers.
-/

namespace BoundSql.Embedded

/-- What is stored in a column of a row. -/
inductive Cell where
  /-- Nothing. -/
  | null
  /-- A signed 64-bit integer. -/
  | int (n : Int64)
  /-- A double that is not a NaN. -/
  | real (x : Binary64)
  | text (s : String)
  /-- Bytes. -/
  | blob (bytes : List UInt8)
deriving DecidableEq, Repr, Inhabited

namespace Cell

/-- The cell of a scalar.  Truth values are one and zero, and a NaN is nothing. -/
def ofScalar : Scalar → Cell
  | .null => null
  | .bool b => int (if b then 1 else 0)
  | .int n => int n
  | .float x => if x.isNaN then null else real x
  | .text s => text s
  | .blob bytes => blob bytes

/-- The value of a cell. -/
def toValue : Cell → Value
  | null => .null
  | int n => .int n
  | real x => .float x
  | text s => .text s
  | blob bytes => .blob bytes

/-! ## Doubles and integers -/

/-- The integer that a finite double is, if it is one. -/
def integerOf? (x : Binary64) : Option Int :=
  let (num, den) := x.ratio
  if x.isFinite && num % den = 0 then
    some (if x.isNegative then -((num / den : Nat) : Int) else ((num / den : Nat) : Int))
  else none

/-- Fifteen significant digits, without zeros at the end. -/
def fifteenDigits (x : Binary64) : Decimal :=
  let (num, den) := x.ratio
  let point := Decimal.pointOf num den
  let e := point - 15
  let scaled := if 0 ≤ e then Binary64.roundDiv num (den * tenPow e.toNat)
    else Binary64.roundDiv (num * tenPow (-e).toNat) den
  Decimal.ofScaled scaled e

/-- The text of a double: positional for exponents from -4 to 14, with a digit
behind the point in any case. -/
def realText (x : Binary64) : String :=
  let sign := if x.isNegative && !x.isZero then "-" else ""
  if x.isInfinite then sign ++ "Inf"
  else if x.isZero then "0.0"
  else
    let d := fifteenDigits x
    let e := d.point - 1
    if -4 ≤ e && e < 15 then sign ++ d.positional true
    else
      let tail := Decimal.digitText (d.digits.drop 1)
      let exponent := toString e.natAbs
      sign ++ Decimal.digitText (d.digits.take 1) ++ "." ++ (if tail.isEmpty then "0" else tail)
        ++ (if e < 0 then "e-" else "e+") ++ (if exponent.length < 2 then "0" ++ exponent else exponent)

end Cell

/-! ## Affinity -/

/-- The kind of cell that a column prefers. -/
inductive Affinity where
  /-- Integers, then doubles. -/
  | integer
  /-- Doubles. -/
  | real
  /-- Integers or doubles. -/
  | numeric
  | text
  /-- None. -/
  | any
deriving DecidableEq, Repr

namespace Affinity

/-- A text occurs in another one. -/
def occurs (part : List Char) : List Char → Bool
  | [] => part.isEmpty
  | c :: cs => part.isPrefixOf (c :: cs) || occurs part cs

/-- The affinity of a declared type. -/
def ofType (declared : String) : Affinity :=
  let type := (Text.lower declared).toList
  let mentions (parts : List String) : Bool := parts.any fun p => occurs p.toList type
  if mentions ["int"] then integer
  else if mentions ["char", "clob", "text"] then text
  else if type.isEmpty || mentions ["blob"] then any
  else if mentions ["real", "floa", "doub"] then real
  else numeric

/-- The affinity is for numbers. -/
def isNumeric : Affinity → Bool
  | integer | real | numeric => true
  | _ => false

end Affinity

namespace Cell

/-- A blank between tokens. -/
def isSpace (c : Char) : Bool := [' ', '\t', '\n', '\r', '\x0b', '\x0c'].contains c

/-- The number that a text spells, blanks around it aside. -/
def numberOf? (s : String) : Option Cell :=
  let cs := ((s.toList.dropWhile isSpace).reverse.dropWhile isSpace).reverse
  (DecimalText.read? cs).map fun d =>
    match if d.isInteger then readWord? (String.ofList cs) else none with
    | some n => int n
    | none => real d.toBinary64

/-- The number that a text begins with, or zero. -/
def leadingNumber (s : String) : Cell :=
  let cs := s.toList.dropWhile isSpace
  let (sign, rest) := match cs with
    | '-' :: rest => (['-'], rest)
    | '+' :: rest => (['+'], rest)
    | _ => ([], cs)
  (numberOf? (String.ofList (sign ++ (Lexeme.cutNumber rest).1))).getD (int 0)

/-- The integer that a double is, or the double itself. -/
def integral (x : Binary64) : Cell :=
  match (integerOf? x).bind toWord? with
  | some n => int n
  | none => real x

/-- A number in the form that a column for numbers prefers. -/
def preferNumber (a : Affinity) : Cell → Cell
  | int n => if a = .real then real (.ofInt n.toInt) else int n
  | real x => if a = .real then real x else integral x
  | c => c

/-- Converts a cell to an affinity, if it can be converted. -/
def convert (a : Affinity) (c : Cell) : Cell :=
  match a with
  | .any => c
  | .text =>
      match c with
      | int n => text (toString n.toInt)
      | real x => text (realText x)
      | _ => c
  | _ =>
      match c with
      | text s => ((numberOf? s).map (preferNumber a)).getD c
      | _ => preferNumber a c

/-! ## Comparison -/

/-- The place of the kind of a cell among the kinds. -/
def rank : Cell → Nat
  | null => 0
  | int _ => 1
  | real _ => 1
  | text _ => 2
  | blob _ => 3

/-- A number as a fraction, infinities at the ends. -/
def fraction? : Cell → Option (Int × Nat)
  | int n => some (n.toInt, 1)
  | real x =>
      let (num, den) := if x.isFinite then x.ratio else (twoPow 1100, 1)
      some (if x.isNegative then (-(num : Int), den) else ((num : Int), den))
  | _ => none

/-- The order of cells. -/
def order (a b : Cell) : Ordering :=
  match compare a.rank b.rank with
  | .eq =>
      match a, b with
      | text s, text t => compare s t
      | blob s, blob t => compare (s.map (·.toNat)) (t.map (·.toNat))
      | _, _ =>
          match a.fraction?, b.fraction? with
          | some (n, d), some (m, e) => compare (n * (e : Int)) (m * (d : Int))
          | _, _ => .eq
  | o => o

/-- The order of two cells with affinities, if neither is nothing. -/
def compareWith (aff : Option Affinity) (a : Cell) (bff : Option Affinity) (b : Cell) :
    Option Ordering :=
  let numeric (x : Option Affinity) : Bool := x.any Affinity.isNumeric
  let a' := if numeric bff && !numeric aff then a.convert .numeric
    else if bff = some .text && aff.isNone then a.convert .text else a
  let b' := if numeric aff && !numeric bff then b.convert .numeric
    else if aff = some .text && bff.isNone then b.convert .text else b
  if a = null || b = null then none else some (order a' b')

/-! ## Arithmetic -/

/-- The number that a cell counts as in a sum. -/
def addend : Cell → Option (Int64 ⊕ Binary64)
  | null => none
  | int n => some (.inl n)
  | real x => some (.inr x)
  | text s =>
      match leadingNumber s with
      | int n => some (.inl n)
      | real x => some (.inr x)
      | _ => some (.inl 0)
  | blob _ => some (.inl 0)

/-- An addend as a double. -/
def addendReal : Int64 ⊕ Binary64 → Binary64
  | .inl n => .ofInt n.toInt
  | .inr x => x

/-- The sum of two finite doubles, rounded to the nearest one. -/
def addFinite (x y : Binary64) : Binary64 :=
  let signed (z : Binary64) : Int := if z.isNegative then -(z.ratio.1 : Int) else (z.ratio.1 : Int)
  let sum := signed x * (y.ratio.2 : Int) + signed y * (x.ratio.2 : Int)
  .ofRatio (decide (sum < 0)) sum.natAbs (x.ratio.2 * y.ratio.2)

/-- The sum of two doubles, if it is a number. -/
def addReal? (x y : Binary64) : Option Binary64 :=
  if x.isFinite && y.isFinite then some (addFinite x y)
  else if x.isFinite then some y
  else if y.isFinite || x = y then some x
  else none

/-- The sum of two cells.  Integers that overflow are added as doubles. -/
def add (a b : Cell) : Cell :=
  match a.addend, b.addend with
  | some (.inl n), some (.inl m) =>
      match toWord? (n.toInt + m.toInt) with
      | some sum => int sum
      | none => ((addReal? (.ofInt n.toInt) (.ofInt m.toInt)).map real).getD null
  | some x, some y => ((addReal? (addendReal x) (addendReal y)).map real).getD null
  | _, _ => null

/-- The negative of a cell. -/
def negate (c : Cell) : Cell :=
  match c.addend with
  | none => null
  | some (.inl n) => if n = Int64.minValue then real (.ofRatio false (twoPow 63) 1) else int (-n)
  | some (.inr x) => real x.neg

/-- Whether a condition with this outcome holds. -/
def holds (c : Cell) : Bool :=
  match c.addend with
  | none => false
  | some (.inl n) => n != 0
  | some (.inr x) => !x.isZero

/-! ## Tests -/

example : realText (.ofDecimal false 15 (-1)) = "1.5" ∧ realText (.ofDecimal true 1 0) = "-1.0"
    ∧ realText (.ofDecimal false 1 20) = "1.0e+20" ∧ realText (.ofDecimal false 1 (-1)) = "0.1" := by
  decide +kernel
example : convert .integer (text " 12 ") = int 12 ∧ convert .text (int 5) = text "5"
    ∧ convert .integer (text "x") = text "x" ∧ convert .numeric (text "2.0") = int 2 := by
  decide +kernel
example : compareWith (some .text) (text "5") none (int 5) = some .eq
    ∧ compareWith (some .integer) (int 5) none (text "5") = some .eq
    ∧ compareWith none (int 5) none (text "5") = some .lt := by decide +kernel
example : add (int 1) (text "2") = int 3 ∧ add (int 1) (text " 12x") = int 13 ∧ add null (int 1) = null := by decide +kernel

end Cell

end BoundSql.Embedded
