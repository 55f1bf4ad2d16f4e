import BoundSql.Number.Power

/-!
# Bytes as text

A list of bytes is cut into *pieces* from left to right.  The first byte of a
piece says how many bytes follow it and within which ranges they lie.  A piece is
a whole character, or it is *broken* because the byte behind it does not fit, or
it is *cut off* by the end of the bytes.  A broken piece consists of the bytes
that do fit, and of at least one byte.

Strict reading fails at the first piece that is not a character.  Lenient
reading puts the replacement character for each such piece.
-/

namespace BoundSql.Text

/-! ## Pieces -/

/-- The ranges of the bytes that follow a first byte, if it is one.  They leave
out the code points that have a shorter form, the surrogates, and all beyond the
last code point. -/
def followers? (b : UInt8) : Option (List (UInt8 × UInt8)) :=
  let any : UInt8 × UInt8 := (0x80, 0xBF)
  if b < 0x80 then some []
  else if b < 0xC2 then none
  else if b < 0xE0 then some [any]
  else if b = 0xE0 then some [(0xA0, 0xBF), any]
  else if b = 0xED then some [(0x80, 0x9F), any]
  else if b < 0xF0 then some [any, any]
  else if b = 0xF0 then some [(0x90, 0xBF), any, any]
  else if b < 0xF4 then some [any, any, any]
  else if b = 0xF4 then some [(0x80, 0x8F), any, any]
  else none

/-- How many bytes in front lie in the ranges, one for one. -/
def fitting : List (UInt8 × UInt8) → List UInt8 → Nat
  | r :: rs, b :: bs => if r.1 ≤ b && b ≤ r.2 then fitting rs bs + 1 else 0
  | _, _ => 0

/-- The number in the bits of a first byte that belong to the code point. -/
def leadBits (b : UInt8) (count : Nat) : Nat :=
  if count = 0 then b.toNat else b.toNat % twoPow (6 - count)

/-- The code point of a first byte and the bytes that follow it. -/
def codePoint (b : UInt8) (tail : List UInt8) : Nat :=
  tail.foldl (fun n c => 64 * n + c.toNat % 64) (leadBits b tail.length)

/-- A part of a list of bytes. -/
inductive BytePiece where
  /-- A character of so many bytes. -/
  | char (c : Char) (size : Nat)
  /-- So many bytes with a byte behind them that does not fit. -/
  | broken (size : Nat)
  /-- So many bytes, where more had to follow. -/
  | cutOff (size : Nat)
deriving DecidableEq, Repr

/-- The number of bytes of a piece. -/
def BytePiece.size : BytePiece → Nat
  | char _ size => size
  | broken size => size
  | cutOff size => size

/-- The piece that a byte begins. -/
def bytePiece (b : UInt8) (bs : List UInt8) : BytePiece :=
  match followers? b with
  | none => .broken 1
  | some ranges =>
      let count := fitting ranges bs
      if count = ranges.length then
        .char (Char.ofNat (codePoint b (bs.take count))) (count + 1)
      else if count = bs.length then .cutOff (count + 1)
      else .broken (count + 1)

/-- The pieces of a list of bytes of which so many bytes belong to a piece that
has been taken. -/
def bytePiecesFrom : Nat → List UInt8 → List BytePiece
  | _, [] => []
  | n + 1, _ :: bs => bytePiecesFrom n bs
  | 0, b :: bs =>
      let piece := bytePiece b bs
      piece :: bytePiecesFrom (piece.size - 1) bs

/-- The pieces of a list of bytes. -/
def bytePieces (bs : List UInt8) : List BytePiece := bytePiecesFrom 0 bs

/-! ## Strict and lenient reading -/

/-- Why bytes are no text. -/
inductive ByteFault where
  /-- So many bytes from an index on are no character. -/
  | invalid (size index : Nat)
  /-- The last character, which begins at an index, is not complete. -/
  | incomplete (index : Nat)
deriving DecidableEq, Repr

/-- The text for the user. -/
def ByteFault.message : ByteFault → String
  | invalid size index =>
      "invalid utf-8 sequence of " ++ toString size ++ " bytes from index " ++ toString index
  | incomplete index => "incomplete utf-8 byte sequence from index " ++ toString index

/-- The characters of pieces of which the first begins at an index. -/
def charsFrom : Nat → List BytePiece → Except ByteFault (List Char)
  | _, [] => .ok []
  | index, .char c size :: rest => (charsFrom (index + size) rest).map (c :: ·)
  | index, .broken size :: _ => .error (.invalid size index)
  | index, .cutOff _ :: _ => .error (.incomplete index)

/-- Reads bytes as text. -/
def ofBytes (bs : List UInt8) : Except ByteFault String :=
  (charsFrom 0 (bytePieces bs)).map String.ofList

/-- The character that stands for a piece. -/
def BytePiece.shown : BytePiece → Char
  | char c _ => c
  | _ => '\uFFFD'

/-- Reads bytes as text, with a replacement character for what is none. -/
def ofBytesLenient (bs : List UInt8) : String :=
  String.ofList ((bytePieces bs).map BytePiece.shown)

/-- The bytes of a character. -/
def charBytes (c : Char) : List UInt8 := String.utf8EncodeChar c

/-- The bytes of a text. -/
def bytes (s : String) : List UInt8 := s.toList.flatMap charBytes

/-! ## Tests -/

example : (ofBytes (bytes "aé€😀")).toOption = some "aé€😀" := by decide +kernel
example : bytePieces [0xE2, 0x28, 0xF0, 0x90, 0x80] = [.broken 1, .char '(' 1, .cutOff 3] := by
  decide +kernel
example : bytePieces [0xED, 0xA0, 0x80] = [.broken 1, .broken 1, .broken 1] := by decide +kernel
example : ofBytesLenient [0xF0, 0x9F, 0x98, 0x61, 0xFF] = "\uFFFDa\uFFFD" := by decide +kernel

end BoundSql.Text
