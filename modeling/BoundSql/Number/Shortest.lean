import BoundSql.Number.Binary64

/-!
# Shortest decimals

The shortest decimal of a double is the decimal with the fewest digits among
those that read back to the double, and of these the nearest to it.

A double `m · 2^q` is read back from every number between its two *midpoints*,
the numbers half way to its neighbours, and from the midpoints themselves if `m`
is even.  The neighbour below is at half the distance if `m` is the least
mantissa of its scale.  For one digit, two digits and so on the search takes the
two points of that decimal grid around the double.  If any point of the grid
lies between the midpoints then one of these two does, so the first grid with a
hit is the shortest.  Of two hits the nearer one is taken.  Two hits may be
equally near, as `.37` and `.38` are to the double `105877264441906.375`, and
then a `Tie` says which of them it is.
-/

namespace BoundSql

/-- A positive decimal `0.d₁d₂… · 10^point`, without a zero at either end of
its digits. -/
structure Decimal where
  /-- The digits, each below ten. -/
  digits : List Nat
  /-- The number of digits in front of the decimal point. -/
  point : Int
deriving DecidableEq, Repr, Inhabited

/-- Which of two decimals stands for a double half way between them. -/
inductive Tie where
  /-- The one whose last digit is even. -/
  | toEven
  /-- The greater one. -/
  | up
deriving DecidableEq, Repr, Inhabited

namespace Decimal

/-- The decimal digits of a positive number, most significant first. -/
def digitsOf (n : Nat) : List Nat := (Nat.toDigits 10 n).map fun c => c.toNat - '0'.toNat

/-- The number of decimal digits. -/
def width (n : Nat) : Nat := (Nat.toDigits 10 n).length

/-- The `point` of a positive fraction: it is at least `10^(point-1)` and below
`10^point`. -/
def pointOf (num den : Nat) : Int :=
  if den ≤ num then (width (num / den) : Int)
  else
    let k := width (den / num)
    if den ≤ num * tenPow (k - 1) then 2 - (k : Int) else 1 - (k : Int)

/-- Whether `c · 10^e` lies between `low / den` and `high / den`, the ends
included if `closed`. -/
def between (low high den : Nat) (closed : Bool) (c : Nat) (e : Int) : Bool :=
  let (x, d) := if 0 ≤ e then (c * tenPow e.toNat * den, 1) else (c * den, tenPow (-e).toNat)
  if closed then low * d ≤ x && x ≤ high * d else low * d < x && x < high * d

/-- Whether the lower neighbour `c` of a number on a grid is taken, where the
number is `rest / unit` of a step above it. -/
def takesLower (tie : Tie) (c rest unit : Nat) : Bool :=
  2 * rest < unit || (2 * rest == unit && tie == .toEven && c % 2 == 0)

/-- The grid point next to `num / den` on the grid of step `10^e`, of those
between the midpoints. -/
def gridHit (tie : Tie) (num low high den : Nat) (closed : Bool) (e : Int) : Option Nat :=
  let (n, d) := if 0 ≤ e then (num, den * tenPow e.toNat) else (num * tenPow (-e).toNat, den)
  let c := n / d
  let below := between low high den closed c e
  let above := between low high den closed (c + 1) e
  if below && above then some (if takesLower tie c (n % d) d then c else c + 1)
  else if below then some c
  else if above then some (c + 1)
  else none

/-- Drops the zeros at the end. -/
def dropTrailingZeros (ds : List Nat) : List Nat := (ds.reverse.dropWhile (· == 0)).reverse

/-- The decimal `c · 10^e`. -/
def ofScaled (c : Nat) (e : Int) : Decimal :=
  ⟨dropTrailingZeros (digitsOf c), (width c : Int) + e⟩

/-- The shortest decimal of the magnitude of a finite double other than zero.
Seventeen digits always read back, so the search ends there. -/
def shortest (tie : Tie) (x : Binary64) : Decimal :=
  let m := x.mantissa
  let closed := m % 2 == 0
  let lowGap := if x.fraction = 0 && 1 < x.exponentField then 1 else 2
  -- over the denominator of `2^(q-2)` the double is `4m` and the midpoints are near it
  let (den, unit) := Binary64.shiftRatio 1 1 (x.scale - 2)
  let num := 4 * m * unit
  let low := (4 * m - lowGap) * unit
  let high := (4 * m + 2) * unit
  let point := pointOf num den
  let hits := (List.range 17).findSome? fun (n : Nat) =>
    let e := point - 1 - (n : Int)
    (gridHit tie num low high den closed e).map fun c => ofScaled c e
  hits.getD ⟨[0], 1⟩

/-! ## Tests -/

example : shortest .up (.ofDecimal false 1 (-1)) = ⟨[1], 0⟩ := by decide +kernel
example : shortest .up ⟨1⟩ = ⟨[5], -323⟩ := by decide +kernel
example : shortest .toEven (.ofInt 9007199254740992)
    = ⟨[9, 0, 0, 7, 1, 9, 9, 2, 5, 4, 7, 4, 0, 9, 9, 2], 16⟩ := by decide +kernel
example : shortest .toEven (.ofInt (twoPow 64))
    = ⟨[1, 8, 4, 4, 6, 7, 4, 4, 0, 7, 3, 7, 0, 9, 5, 5, 2], 20⟩ := by decide +kernel
example : (shortest .toEven (.ofDecimal false 105877264441906125 (-3))).digits.getLast? = some 2
    ∧ (shortest .up (.ofDecimal false 105877264441906125 (-3))).digits.getLast? = some 3
    ∧ (shortest .toEven (.ofDecimal false 105877264441906375 (-3))).digits.getLast? = some 8 := by
  decide +kernel

end Decimal

end BoundSql
