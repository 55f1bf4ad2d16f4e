import BoundSql.Number.Shortest

/-!
# Layout of decimals

Which digits a double has is settled by `Decimal.shortest`.  A `FloatStyle` says
how they are laid out: from which powers of ten on an exponent is used, and
whether an integer keeps a fraction of `.0`.  It also says which digits are taken
where two decimals are equally near.  A negative zero keeps its sign.
-/

namespace BoundSql

/-- The decisions about the layout of a finite double. -/
structure FloatStyle where
  /-- Numbers from ten to this power on are written with an exponent. -/
  exponentFrom : Option Int
  /-- Numbers below ten to this power are written with an exponent. -/
  exponentBelow : Option Int
  /-- An integer in positional notation ends in `.0`. -/
  keepsFraction : Bool
  /-- Which of two equally near decimals is written. -/
  tie : Tie
deriving DecidableEq, Repr

namespace Decimal

/-- Digits as text. -/
def digitText (ds : List Nat) : String := String.ofList (ds.map Nat.digitChar)

/-- `n` zeros. -/
def zeros (n : Nat) : List Nat := List.replicate n 0

/-- Positional notation. -/
def positional (keepsFraction : Bool) (d : Decimal) : String :=
  if d.point ≤ 0 then "0." ++ digitText (zeros (-d.point).toNat ++ d.digits)
  else
    let n := d.point.toNat
    if d.digits.length ≤ n then
      digitText (d.digits ++ zeros (n - d.digits.length)) ++ (if keepsFraction then ".0" else "")
    else digitText (d.digits.take n) ++ "." ++ digitText (d.digits.drop n)

/-- One digit, the others after a point, and the exponent with its sign. -/
def scientific (d : Decimal) : String :=
  let tail := d.digits.drop 1
  let e := d.point - 1
  digitText (d.digits.take 1) ++ (if tail.isEmpty then "" else "." ++ digitText tail)
    ++ (if e < 0 then "e-" else "e+") ++ toString e.natAbs

/-- A decimal in the given style. -/
def layout (style : FloatStyle) (d : Decimal) : String :=
  let e := d.point - 1
  if style.exponentFrom.any (· ≤ e) || style.exponentBelow.any (e < ·) then d.scientific
  else d.positional style.keepsFraction

end Decimal

/-- A finite double in the given style. -/
def Binary64.layout (style : FloatStyle) (x : Binary64) : String :=
  (if x.isNegative then "-" else "")
    ++ (if x.isZero then (if style.keepsFraction then "0.0" else "0")
        else (Decimal.shortest style.tie x).layout style)

/-! ## Tests -/

section Tests

/-- Positional everywhere. -/
def plainExample : FloatStyle := ⟨none, none, false, .up⟩

/-- An exponent outside of the middle range. -/
def mixedExample : FloatStyle := ⟨some 16, some (-5), true, .toEven⟩

example : (Binary64.ofDecimal false 15 (-1)).layout plainExample = "1.5" := by decide +kernel
example : (Binary64.zero true).layout plainExample = "-0" := by decide +kernel
example : (Binary64.ofInt (tenPow 21)).layout plainExample = "1000000000000000000000" := by decide +kernel
example : (Binary64.ofInt (tenPow 16)).layout mixedExample = "1e+16" := by decide +kernel
example : (Binary64.ofInt (tenPow 15)).layout mixedExample = "1000000000000000.0" := by decide +kernel
example : (Binary64.ofDecimal true 1 (-5)).layout mixedExample = "-0.00001" := by decide +kernel
example : (Binary64.ofDecimal false 12 (-7)).layout mixedExample = "1.2e-6" := by decide +kernel

end Tests

end BoundSql
