import BoundSql.Json.Fault

/-!
# Reading JSON strings

A string is read by a machine that takes one character at a time.  Between the
quotes it is either on plain text, behind a backslash, or inside an escape by
code unit.  Two such escapes make one character if they are a pair of
surrogates.  A surrogate without its partner is malformed, except in a string
that is only passed over.

A text that ends inside a string is truncated.  An escape by code unit needs four
more bytes: if fewer are left then the text is truncated, whatever they are.
-/

namespace BoundSql.Json

/-- Where the machine stands between two characters. -/
inductive StringState where
  /-- On plain text. -/
  | plain
  /-- Behind a backslash. -/
  | escape
  /-- Inside an escape by code unit: digits still to come, the number so far, and
  the first half of a pair, if there is one. -/
  | unit (left value : Nat) (high : Option Nat)
  /-- Behind the first half of a pair, where a backslash has to follow. -/
  | pairBackslash (high : Nat)
  /-- Behind that backslash, where a `u` has to follow. -/
  | pairLetter (high : Nat)
deriving DecidableEq, Repr

/-- The value of a hexadecimal digit. -/
def hexValue? (c : Char) : Option Nat :=
  if '0' ≤ c ∧ c ≤ '9' then some (c.toNat - '0'.toNat)
  else if 'a' ≤ c ∧ c ≤ 'f' then some (c.toNat - 'a'.toNat + 10)
  else if 'A' ≤ c ∧ c ≤ 'F' then some (c.toNat - 'A'.toNat + 10)
  else none

/-- The character that a letter behind a backslash stands for. -/
def escaped? (c : Char) : Option Char :=
  match c with
  | '"' => some '"'
  | '\\' => some '\\'
  | '/' => some '/'
  | 'b' => some '\x08'
  | 'f' => some '\x0c'
  | 'n' => some '\n'
  | 'r' => some '\r'
  | 't' => some '\t'
  | _ => none

/-- The number is the first half of a pair. -/
def isHighSurrogate (n : Nat) : Bool := 0xD800 ≤ n && n ≤ 0xDBFF

/-- The number is the second half of a pair. -/
def isLowSurrogate (n : Nat) : Bool := 0xDC00 ≤ n && n ≤ 0xDFFF

/-- The number of bytes of some characters. -/
def byteCount (cs : List Char) : Nat := cs.foldl (fun n c => n + c.utf8Size) 0

/-- What follows a complete code unit: more of a pair, or a character. -/
def afterUnit (n : Nat) (high : Option Nat) : Except Fault (StringState × Option Char) :=
  match high with
  | none =>
      if isHighSurrogate n then .ok (.pairBackslash n, none)
      else if isLowSurrogate n then .error .malformed
      else .ok (.plain, some (Char.ofNat n))
  | some h =>
      if isLowSurrogate n then
        .ok (.plain, some (Char.ofNat (0x10000 + (h - 0xD800) * 0x400 + (n - 0xDC00))))
      else .error .malformed

/-- The fault of a character that is no digit, where `left` more digits have to
come: too few bytes are left, or it does not belong there. -/
def digitFault (left : Nat) (rest : List Char) : Fault :=
  if byteCount (rest.take left) < left then .truncated else .malformed

/-- Reads a string behind its opening quote.  `acc` holds what has been read, last
character first. -/
def stringFrom : StringState → List Char → List Char → Except Fault (String × List Char)
  | _, _, [] => .error .truncated
  | .plain, acc, c :: cs =>
      if c = '"' then .ok (String.ofList acc.reverse, cs)
      else if c = '\\' then stringFrom .escape acc cs
      else if c.toNat < 0x20 then .error .malformed
      else stringFrom .plain (c :: acc) cs
  | .escape, acc, c :: cs =>
      if c = 'u' then stringFrom (.unit 4 0 none) acc cs
      else match escaped? c with
        | some e => stringFrom .plain (e :: acc) cs
        | none => .error .malformed
  | .unit left value high, acc, c :: cs =>
      match hexValue? c with
      | none => .error (digitFault left (c :: cs))
      | some d =>
          if left ≤ 1 then
            match afterUnit (16 * value + d) high with
            | .error fault => .error fault
            | .ok (state, some e) => stringFrom state (e :: acc) cs
            | .ok (state, none) => stringFrom state acc cs
          else stringFrom (.unit (left - 1) (16 * value + d) high) acc cs
  | .pairBackslash high, acc, c :: cs =>
      if c = '\\' then stringFrom (.pairLetter high) acc cs else .error .malformed
  | .pairLetter high, acc, c :: cs =>
      if c = 'u' then stringFrom (.unit 4 0 (some high)) acc cs else .error .malformed

/-- Reads a string behind its opening quote. -/
def stringBody : Reader String := fun cs => stringFrom .plain [] cs

/-- Passes over a string behind its opening quote.  Escapes by code unit need
their four digits and no partner. -/
def skipStringFrom : StringState → List Char → Except Fault (List Char)
  | _, [] => .error .truncated
  | .plain, c :: cs =>
      if c = '"' then .ok cs
      else if c = '\\' then skipStringFrom .escape cs
      else if c.toNat < 0x20 then .error .malformed
      else skipStringFrom .plain cs
  | .escape, c :: cs =>
      if c = 'u' then skipStringFrom (.unit 4 0 none) cs
      else if (escaped? c).isSome then skipStringFrom .plain cs
      else .error .malformed
  | .unit left _ _, c :: cs =>
      if (hexValue? c).isNone then .error (digitFault left (c :: cs))
      else if left ≤ 1 then skipStringFrom .plain cs
      else skipStringFrom (.unit (left - 1) 0 none) cs
  | _, _ :: _ => .error .malformed

/-- Passes over a string behind its opening quote. -/
def skipStringBody : Reader Unit := fun cs => (skipStringFrom .plain cs).map fun rest => ((), rest)

/-! ## Tests -/

/-- A string read behind its opening quote, if there is no fault. -/
def readExample (s : String) : Option String := (stringBody s.toList).toOption.map Prod.fst

example : readExample "a\\n\\u00e9\\ud83d\\ude00\"" = some "a\né😀" := by decide +kernel
example : readExample "\\ud83d\"" = none ∧ readExample "\\ude00\"" = none := by decide +kernel

end BoundSql.Json
