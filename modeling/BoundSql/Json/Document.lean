import BoundSql.Number.Layout

/-!
# JSON documents and their text

A `Json` document is printed on one line without blanks, or over several lines
with two spaces per level.  The members of an object keep their order.

In strings the quote and the backslash are escaped, the five control characters
that have a letter take it, and the other control characters are written by code
point in four digits.  Every other character stands for itself.  Doubles that
are not finite have no JSON text, so they are written as `null`.
-/

namespace BoundSql

/-- A JSON document. -/
inductive Json where
  /-- `null` -/
  | null
  /-- `true` or `false` -/
  | bool (b : Bool)
  /-- A number without fraction and exponent. -/
  | integer (n : Int)
  /-- A number with a fraction or an exponent. -/
  | float (x : Binary64)
  | string (s : String)
  | array (items : List Json)
  /-- An object, its members in order. -/
  | object (members : List (String × Json))
deriving Repr, Inhabited

namespace Json

/-! ## Scalars -/

/-- Integers keep a fraction, and an exponent stands from 10^16 on and below
10^-5. -/
def floatStyle : FloatStyle := ⟨some 16, some (-5), true, .toEven⟩

/-- The text of a double. -/
def floatText (x : Binary64) : String := if x.isFinite then x.layout floatStyle else "null"

/-- A number below sixteen as a digit. -/
def hexDigit (n : Nat) : Char := Nat.digitChar n

/-- A character as it stands in a string. -/
def escapeChar (c : Char) : List Char :=
  if c = '"' then ['\\', '"']
  else if c = '\\' then ['\\', '\\']
  else if c = '\n' then ['\\', 'n']
  else if c = '\r' then ['\\', 'r']
  else if c = '\t' then ['\\', 't']
  else if c = '\x08' then ['\\', 'b']
  else if c = '\x0c' then ['\\', 'f']
  else if c.toNat < 0x20 then
    ['\\', 'u', '0', '0', hexDigit (c.toNat / 16), hexDigit (c.toNat % 16)]
  else [c]

/-- A string between quotes. -/
def stringText (s : String) : String :=
  "\"" ++ String.ofList (s.toList.flatMap escapeChar) ++ "\""

/-! ## One line -/

/-- The text of a document on one line. -/
def compact : Json → String
  | .null => "null"
  | .bool b => if b then "true" else "false"
  | .integer n => toString n
  | .float x => floatText x
  | .string s => stringText s
  | .array items => "[" ++ String.intercalate "," (items' items) ++ "]"
  | .object members => "\x7b" ++ String.intercalate "," (members' members) ++ "\x7d"
where
  /-- The texts of the items of an array. -/
  items' : List Json → List String
    | [] => []
    | j :: js => j.compact :: items' js
  /-- The texts of the members of an object. -/
  members' : List (String × Json) → List String
    | [] => []
    | (name, j) :: js => (stringText name ++ ":" ++ j.compact) :: members' js

/-! ## Several lines -/

/-- A line break and two spaces per level. -/
def lineBreak (level : Nat) : String := "\n" ++ String.ofList (List.replicate (2 * level) ' ')

/-- Parts between brackets, each on a line of its own. -/
def block (opening closing : String) (level : Nat) (parts : List String) : String :=
  if parts.isEmpty then opening ++ closing
  else opening ++ lineBreak (level + 1) ++ String.intercalate ("," ++ lineBreak (level + 1)) parts
    ++ lineBreak level ++ closing

/-- The text of a document over several lines, from the given level on. -/
def prettyAt : Json → Nat → String
  | .array items, level => block "[" "]" level (items' items (level + 1))
  | .object members, level => block "\x7b" "\x7d" level (members' members (level + 1))
  | j, _ => j.compact
where
  /-- The texts of the items of an array. -/
  items' : List Json → Nat → List String
    | [], _ => []
    | j :: js, level => j.prettyAt level :: items' js level
  /-- The texts of the members of an object. -/
  members' : List (String × Json) → Nat → List String
    | [], _ => []
    | (name, j) :: js, level => (stringText name ++ ": " ++ j.prettyAt level) :: members' js level

/-- The text of a document over several lines. -/
def pretty (j : Json) : String := j.prettyAt 0

/-! ## Tests -/

example : (array [.object [("a", .integer (-1)), ("é\x01", .null)], .array []]).compact
    = "[\x7b\"a\":-1,\"é\\u0001\":null\x7d,[]]" := by decide +kernel
example : (array [.object [("a", .integer 1)], .array []]).pretty
    = "[\n  \x7b\n    \"a\": 1\n  \x7d,\n  []\n]" := by decide +kernel

end Json

end BoundSql
