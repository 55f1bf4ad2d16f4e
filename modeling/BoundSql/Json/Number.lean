import BoundSql.Json.Fault
import BoundSql.Number.Integer

/-!
# Reading JSON numbers

A number without fraction and exponent is an integer if it fits a 64-bit word,
unsigned or, with a sign, signed.  Every other number is a double, and so is
`-0`.

A double is read by *scaling*.  The significant digits are collected in an
unsigned word for as long as they fit.  The word, rounded to a double, is then
multiplied or divided by the power of ten that remains, also rounded to a
double.  Two roundings are not one, so the result can miss the nearest double in
its last bit.  A power beyond the largest double divides in steps, and a result
beyond the largest double makes the text malformed.
-/

namespace BoundSql.Json

/-- A number of a text. -/
inductive Number where
  /-- An integer of at most 64 bits. -/
  | integer (n : Int)
  /-- Any other number. -/
  | float (x : Binary64)
deriving DecidableEq, Repr

/-- What was found, when a number stands in the wrong place. -/
def Number.found : Number → Found
  | .integer n => .integer n
  | .float x => .float x

/-! ## Scaling -/

/-- The largest power of ten that is a double. -/
def maxPower : Nat := 308

/-- The double nearest to a power of ten. -/
def powerOfTen (k : Nat) : Binary64 := .ofRatio false (tenPow k) 1

/-- Divides by ten to the power `k`, in steps of the largest power.  A zero is
not divided any further. -/
def scaleDown : Nat → Binary64 → Nat → Binary64
  | 0, x, _ => x
  | steps + 1, x, k =>
      if k ≤ maxPower then x.div (powerOfTen k)
      else if x.isZero then x
      else scaleDown steps (x.div (powerOfTen maxPower)) (k - maxPower)

/-- The double `significand · 10^exponent`, by scaling.  There is none if it is
too large. -/
def scaled? (negative : Bool) (significand : Nat) (exponent : Int) : Option Binary64 :=
  let x := Binary64.ofRatio false significand 1
  let magnitude? :=
    if 0 ≤ exponent then
      if exponent.toNat ≤ maxPower then
        let y := x.mul (powerOfTen exponent.toNat)
        if y.isInfinite then none else some y
      else if x.isZero then some x
      else none
    else some (scaleDown ((-exponent).toNat / maxPower + 1) x (-exponent).toNat)
  magnitude?.map fun y => if negative then y.neg else y

/-! ## Digits -/

/-- The digits in front of a text, and the rest. -/
def digits (cs : List Char) : List Char × List Char := cs.span isDigit

/-- Significant digits, as far as they fit a word, and how many did not. -/
structure Significand where
  /-- The number that the digits spell. -/
  value : Nat
  /-- The number of digits taken. -/
  taken : Nat
  /-- The digits that no longer fit. -/
  dropped : Nat
deriving DecidableEq, Repr

/-- Takes one more digit, unless it or one before it does not fit. -/
def Significand.push (s : Significand) (c : Char) : Significand :=
  let next := 10 * s.value + (c.toNat - '0'.toNat)
  if s.dropped = 0 && next < twoPow 64 then { s with value := next, taken := s.taken + 1 }
  else { s with dropped := s.dropped + 1 }

/-- Takes digits one after the other. -/
def Significand.pushAll (s : Significand) (ds : List Char) : Significand := ds.foldl push s

/-- The exponents that are taken as they are. -/
def maxExponent : Nat := twoPow 31 - 1

/-- An exponent beyond the range of a signed 32-bit word is cut to it. -/
def clampExponent (e : Int) : Int := max (-(twoPow 31)) (min (twoPow 31 - 1) e)

/-- The result of scaling, or a malformed text. -/
def finish (x? : Option Binary64) (rest : List Char) : Except Fault (Number × List Char) :=
  match x? with
  | some x => .ok (.float x, rest)
  | none => .error .malformed

/-- Reads an exponent behind its letter and scales. -/
def exponentPart (negative : Bool) (significand : Nat) (exponent : Int) (cs : List Char) :
    Except Fault (Number × List Char) :=
  let (down, cs) := match cs with
    | '+' :: rest => (false, rest)
    | '-' :: rest => (true, rest)
    | _ => (false, cs)
  match digits cs with
  | ([], []) => .error .truncated
  | ([], _ :: _) => .error .malformed
  | (ds, rest) =>
      let e := digitsValue ds
      if maxExponent < e then
        if significand = 0 || down then .ok (.float (.zero negative), rest) else .error .malformed
      else
        let total := clampExponent (if down then exponent - e else exponent + e)
        finish (scaled? negative significand total) rest

/-- Reads a fraction behind its point, then perhaps an exponent. -/
def fractionPart (negative : Bool) (whole : Significand) (cs : List Char) :
    Except Fault (Number × List Char) :=
  match digits cs with
  | ([], []) => .error .truncated
  | ([], _ :: _) => .error .malformed
  | (ds, rest) =>
      let s := Significand.pushAll ⟨whole.value, 0, 0⟩ ds
      let exponent : Int := (whole.dropped : Int) - s.taken
      match rest with
      | 'e' :: tail => exponentPart negative s.value exponent tail
      | 'E' :: tail => exponentPart negative s.value exponent tail
      | _ => finish (scaled? negative s.value exponent) rest

/-- The integer of some digits, if it fits a word. -/
def wholeNumber (negative : Bool) (s : Significand) (rest : List Char) :
    Except Fault (Number × List Char) :=
  if s.dropped ≠ 0 then finish (scaled? negative s.value s.dropped) rest
  else if !negative then .ok (.integer s.value, rest)
  else if s.value = 0 || twoPow 63 < s.value then .ok (.float (.ofRatio true s.value 1), rest)
  else .ok (.integer (-s.value), rest)

/-- Reads a number behind its sign. -/
def unsignedNumber (negative : Bool) (cs : List Char) : Except Fault (Number × List Char) :=
  match digits cs with
  | ([], []) => .error .truncated
  | ([], _ :: _) => .error .malformed
  | ('0' :: _ :: _, _) => .error .malformed
  | (ds, rest) =>
      let s := Significand.pushAll ⟨0, 0, 0⟩ ds
      match rest with
      | '.' :: tail => fractionPart negative s tail
      | 'e' :: tail => exponentPart negative s.value s.dropped tail
      | 'E' :: tail => exponentPart negative s.value s.dropped tail
      | _ => wholeNumber negative s rest

/-- Reads a number. -/
def readNumber : Reader Number := fun cs =>
  match cs with
  | '-' :: rest => unsignedNumber true rest
  | _ => unsignedNumber false cs

/-! ## Passing over -/

/-- Passes over an exponent behind its letter. -/
def skipExponent (cs : List Char) : Except Fault (List Char) :=
  let cs := match cs with
    | '+' :: rest => rest
    | '-' :: rest => rest
    | _ => cs
  match digits cs with
  | ([], _) => .error .malformed
  | (_, rest) => .ok rest

/-- Passes over an exponent, if there is one. -/
def skipTail (cs : List Char) : Except Fault (List Char) :=
  match cs with
  | 'e' :: rest => skipExponent rest
  | 'E' :: rest => skipExponent rest
  | _ => .ok cs

/-- Passes over a number of any size.  A number that is cut off counts as
malformed here. -/
def skipNumber : Reader Unit := fun cs =>
  let cs := match cs with
    | '-' :: rest => rest
    | _ => cs
  let result : Except Fault (List Char) := match digits cs with
    | ([], _) => .error .malformed
    | ('0' :: _ :: _, _) => .error .malformed
    | (_, '.' :: tail) =>
        match digits tail with
        | ([], _) => .error .malformed
        | (_, rest) => skipTail rest
    | (_, rest) => skipTail rest
  result.map fun rest => ((), rest)

/-! ## Tests -/

/-- A number read from the front of a text, if there is no fault. -/
def numberExample (s : String) : Option Number := (readNumber s.toList).toOption.map Prod.fst

example : numberExample "-9223372036854775808" = some (.integer (-9223372036854775808)) := by
  decide +kernel
example : numberExample "18446744073709551616" = some (.float ⟨0x43F0000000000000⟩) := by
  decide +kernel
example : numberExample "-0" = some (.float (.zero true)) := by decide +kernel
example : numberExample "5e-324" = some (.float ⟨1⟩) ∧ numberExample "1e309" = none := by
  decide +kernel

end BoundSql.Json
