import BoundSql.Text.Split
import BoundSql.Url.Percent

/-!
# Addresses of version six

An address is eight groups of sixteen bits.  It is written as hexadecimal groups
with colons between them.  Two colons in a row, which may stand once, are short
for one or more groups of zeros, and the last two groups may be written as four
decimal bytes with dots between them.

An address has one *canonical* text: no leading zeros, no dots, and two colons
for the longest run of zeros, the first of them if there are several, unless it
is a single group.
-/

namespace BoundSql.Url

/-! ## Reading -/

/-- A group of one to four hexadecimal digits. -/
def readGroup? (cs : List Char) : Option Nat :=
  if cs.isEmpty || cs.length > 4 then none
  else (cs.mapM hexValue?).map fun ds => ds.foldl (fun n d => 16 * n + d) 0

/-- A decimal byte without leading zeros. -/
def readByte? (cs : List Char) : Option Nat :=
  let value := cs.foldl (fun n c => 10 * n + (c.toNat - '0'.toNat)) 0
  if cs.isEmpty || !cs.all Char.isDigit || (cs.length > 1 && cs.head? == some '0') then none
  else if value < 256 then some value
  else none

/-- The two groups that four decimal bytes make. -/
def readDotted? (cs : List Char) : Option (List Nat) := do
  match ← (Text.splitWhere (· == '.') cs).mapM readByte? with
  | [a, b, c, d] => some [256 * a + b, 256 * c + d]
  | _ => none

/-- The groups of some texts.  The last one may stand for two groups. -/
def readGroups? : List (List Char) → Option (List Nat)
  | [] => some []
  | [last] => if last.contains '.' then readDotted? last else (readGroup? last).map ([·])
  | cs :: rest => do some ((← readGroup? cs) :: (← readGroups? rest))

/-- The groups of a part of an address that has no two colons in a row. -/
def readPart? (cs : List Char) : Option (List Nat) :=
  if cs.isEmpty then some [] else readGroups? (Text.splitWhere (· == ':') cs)

/-- What stands in front of the first two colons in a row, and behind them. -/
def cutAtColons? : List Char → Option (List Char × List Char)
  | ':' :: ':' :: rest => some ([], rest)
  | c :: rest => (cutAtColons? rest).map fun p => (c :: p.1, p.2)
  | [] => none

/-- The eight groups of an address. -/
def readIpv6? (cs : List Char) : Option (List Nat) := do
  match cutAtColons? cs with
  | none =>
      let groups ← readPart? cs
      if groups.length = 8 then some groups else none
  | some (front, back) =>
      let first ← readPart? front
      let last ← readPart? back
      if front.contains '.' || first.length + last.length > 7 then none
      else some (first ++ List.replicate (8 - first.length - last.length) 0 ++ last)

/-! ## Writing -/

/-- The length of the run of zeros at the front. -/
def zeroRun (groups : List Nat) : Nat := (groups.takeWhile (· == 0)).length

/-- The position and length of the longest run of zeros, the first of them if
there are several. -/
def longestZeroRun (groups : List Nat) : Nat × Nat :=
  (List.range groups.length).foldl
    (fun best i =>
      let run := zeroRun (groups.drop i)
      if best.2 < run then (i, run) else best)
    (0, 0)

/-- Groups with colons between them. -/
def groupsText (groups : List Nat) : String :=
  String.intercalate ":" (groups.map fun n => String.ofList (Nat.toDigits 16 n))

/-- The canonical text of an address. -/
def ipv6Text (groups : List Nat) : String :=
  let (start, length) := longestZeroRun groups
  if length < 2 then groupsText groups
  else groupsText (groups.take start) ++ "::" ++ groupsText (groups.drop (start + length))

/-! ## Tests -/

/-- The canonical text of an address, if it is one. -/
def canonicalIpv6? (s : String) : Option String := (readIpv6? s.toList).map ipv6Text

example : canonicalIpv6? "0:0:1::ffff:1.2.3.4" = some "::1:0:0:ffff:102:304" := by decide +kernel
example : canonicalIpv6? "::" = some "::" ∧ canonicalIpv6? "1:2:3:4:5:6:7::" = some "1:2:3:4:5:6:7:0" := by
  decide +kernel
example : canonicalIpv6? "1::2::3" = none ∧ canonicalIpv6? ":::" = none ∧ canonicalIpv6? "1:" = none
    ∧ canonicalIpv6? "::01.2.3.4" = none ∧ canonicalIpv6? "1.2.3.4::" = none := by decide +kernel

end BoundSql.Url
