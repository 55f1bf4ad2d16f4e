import BoundSql.Text.Utf8

/-!
# Percent encoding

A byte may be written as a percent sign and two hexadecimal digits.  A part of a
URL is *encoded* by writing the bytes of some of its characters so, which ones
depends on the part.  It is *decoded* by reading every such triple as its byte.
A percent sign without two digits stands for itself.
-/

namespace BoundSql.Url

/-! ## Hexadecimal digits -/

/-- The number of a hexadecimal digit. -/
def hexValue? (c : Char) : Option Nat :=
  if '0' ≤ c ∧ c ≤ '9' then some (c.toNat - '0'.toNat)
  else if 'a' ≤ c ∧ c ≤ 'f' then some (c.toNat - 'a'.toNat + 10)
  else if 'A' ≤ c ∧ c ≤ 'F' then some (c.toNat - 'A'.toNat + 10)
  else none

/-- A number below sixteen as a digit of upper case. -/
def hexDigit (n : Nat) : Char := (Nat.digitChar n).toUpper

/-! ## Encoding -/

/-- The characters that are written by their bytes in every part: the controls,
and all that are not ASCII. -/
def isControl (c : Char) : Bool := decide (c.toNat < 0x20) || decide (0x7F ≤ c.toNat)

/-- The characters that are written by their bytes in a path. -/
def isPathEscaped (c : Char) : Bool :=
  isControl c || [' ', '"', '<', '>', '\x60', '#', '?', '\x7b', '\x7d'].contains c

/-- The characters that are written by their bytes in a user name or password. -/
def isUserEscaped (c : Char) : Bool :=
  isPathEscaped c || ['/', ':', ';', '=', '@', '[', '\\', ']', '^', '|'].contains c

/-- A byte as a percent sign and two digits. -/
def escapeByte (b : UInt8) : List Char :=
  ['%', hexDigit (b.toNat / 16), hexDigit (b.toNat % 16)]

/-- Writes some of the characters by their bytes. -/
def encode (escaped : Char → Bool) (cs : List Char) : List Char :=
  cs.flatMap fun c => if escaped c then (Text.charBytes c).flatMap escapeByte else [c]

/-! ## Decoding -/

/-- The bytes of a text in which some bytes may be written by number. -/
def decode : List Char → List UInt8
  | [] => []
  | '%' :: hi :: lo :: rest =>
      match hexValue? hi, hexValue? lo with
      | some h, some l => UInt8.ofNat (16 * h + l) :: decode rest
      | _, _ => 0x25 :: decode (hi :: lo :: rest)
  | c :: rest => Text.charBytes c ++ decode rest

/-! ## Tests -/

example : encode isPathEscaped "a é%41".toList = "a%20%C3%A9%41".toList := by decide +kernel
example : Text.ofBytesLenient (decode "%c3%a9%zz%4".toList) = "é%zz%4" := by decide +kernel

end BoundSql.Url
