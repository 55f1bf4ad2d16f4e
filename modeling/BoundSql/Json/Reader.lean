import BoundSql.Json.Number
import BoundSql.Json.Text

/-!
# Reading JSON for a purpose

A reader knows what it is after.  It looks at the next character, and if
something of another type begins there, it names that thing in its mismatch: a
scalar is read to its end first, an array or an object is not entered.

Loops over items and members take a *budget*, a number that the length of the
text never exceeds.  Each turn of a loop takes at least one character, so a
budget is never used up.  Every loop of one reading starts with the same budget.

Members that nobody asked for are passed over.  Passing over is more lenient
than reading: nesting is unlimited, numbers have any size, and halves of
surrogate pairs need no partner.
-/

namespace BoundSql.Json

/-! ## Characters -/

/-- The blanks of JSON. -/
def isSpace (c : Char) : Bool := c == ' ' || c == '\n' || c == '\t' || c == '\r'

/-- The next character behind blanks, which stays. -/
def peek : Reader Char := fun cs =>
  match cs.dropWhile isSpace with
  | [] => .error .truncated
  | c :: rest => .ok (c, c :: rest)

/-- Takes one character. -/
def advance : Reader Unit := fun cs => .ok ((), cs.tail)

/-- Takes the characters of a word one by one. -/
def word : List Char → Reader Unit
  | [], cs => .ok ((), cs)
  | _ :: _, [] => .error .truncated
  | e :: es, c :: cs => if c = e then word es cs else .error .malformed

/-- Names what begins with the character `c`, and reads it if it is a scalar. -/
def found (c : Char) : Reader Found := do
  if c = 'n' then word "null".toList; pure .null
  else if c = 't' then word "true".toList; pure (.bool true)
  else if c = 'f' then word "false".toList; pure (.bool false)
  else if c = '"' then advance; pure (.string (← stringBody))
  else if c = '[' then pure .sequence
  else if c = '\x7b' then pure .map
  else if c = '-' || isDigit c then pure (← readNumber).found
  else throw .malformed

/-- Fails because what begins with the character `c` is not what was expected. -/
def mismatchAt {α : Type} (c : Char) (expected : String) : Reader α := do
  fail (.invalidType (← found c) expected)

/-! ## Scalars -/

/-- A string. -/
def readString : Reader String := do
  let c ← peek
  if c = '"' then advance; stringBody
  else mismatchAt c "a string"

/-- A truth value. -/
def readBool : Reader Bool := do
  let c ← peek
  if c = 't' then word "true".toList; pure true
  else if c = 'f' then word "false".toList; pure false
  else mismatchAt c "a boolean"

/-- An unsigned integer of sixteen bits. -/
def readPort : Reader UInt16 := do
  let c ← peek
  if c = '-' || isDigit c then
    match ← readNumber with
    | .integer n =>
        if 0 ≤ n ∧ n < 65536 then pure (UInt16.ofNat n.toNat)
        else fail (.invalidValue (.integer n) "u16")
    | .float x => fail (.invalidType (.float x) "u16")
  else mismatchAt c "u16"

/-- Whatever the reader is after, or `null`. -/
def readNullable {α : Type} (item : Reader α) : Reader (Option α) := do
  let c ← peek
  if c = 'n' then word "null".toList; pure none
  else some <$> item

/-! ## Arrays -/

/-- Whether another item follows.  The closing bracket stays. -/
def nextItem (first : Bool) : Reader Bool := do
  let c ← peek
  if c = ']' then pure false
  else if first then pure true
  else if c = ',' then
    advance
    if (← peek) = ']' then throw .malformed else pure true
  else throw .malformed

/-- The items of an array up to its closing bracket.  `acc` holds those that have
been read, last item first. -/
def itemsFrom {α : Type} (item : Reader α) : Nat → Bool → List α → Reader (List α)
  | 0, _, _ => throw .malformed
  | budget + 1, first, acc => do
      if ← nextItem first then itemsFrom item budget false ((← item) :: acc)
      else advance; pure acc.reverse

/-- The items of an array behind its opening bracket. -/
def items {α : Type} (budget : Nat) (item : Reader α) : Reader (List α) :=
  itemsFrom item (budget + 1) true []

/-- An array of which nothing is left but its closing bracket. -/
def closeArray : Reader Unit := do
  if (← peek) = ']' then advance else throw .malformed

/-- An array. -/
def readArray {α : Type} (budget : Nat) (item : Reader α) : Reader (List α) := do
  let c ← peek
  if c = '[' then advance; items budget item
  else mismatchAt c "a sequence"

/-! ## Objects -/

/-- The name of the next member.  The closing brace stays. -/
def nextName (first : Bool) : Reader (Option String) := do
  let c ← peek
  if c = '\x7d' then pure none
  else if first then
    if c = '"' then advance; some <$> stringBody else throw .malformed
  else if c = ',' then
    advance
    if (← peek) = '"' then advance; some <$> stringBody else throw .malformed
  else throw .malformed

/-- The colon between the name of a member and its value. -/
def colon : Reader Unit := do
  if (← peek) = ':' then advance else throw .malformed

/-- Lets every member of an object, up to its closing brace, take part in a
result.  `step` reads from the colon on. -/
def foldMembers {σ : Type} (step : σ → String → Reader σ) : Nat → Bool → σ → Reader σ
  | 0, _, _ => throw .malformed
  | budget + 1, first, acc => do
      match ← nextName first with
      | none => pure acc
      | some name => foldMembers step budget false (← step acc name)

/-- Lets every member of an object behind its opening brace take part in a
result. -/
def members {σ : Type} (budget : Nat) (step : σ → String → Reader σ) (start : σ) : Reader σ := do
  let result ← foldMembers step (budget + 1) true start
  advance
  pure result

/-- An object. -/
def readObject {σ : Type} (budget : Nat) (expected : String) (step : σ → String → Reader σ)
    (start : σ) : Reader σ := do
  let c ← peek
  if c = '\x7b' then advance; members budget step start
  else mismatchAt c expected

/-! ## Passing over -/

/-- A container that has been entered. -/
inductive Frame where
  | array
  | object
deriving DecidableEq, Repr

/-- The bracket that closes a container. -/
def Frame.closing : Frame → Char
  | array => ']'
  | object => '\x7d'

/-- Passes over what stands in front of a value in a container: the name of a
member, or nothing. -/
def Frame.skipName : Frame → Reader Unit
  | array => pure ()
  | object => do
      if (← peek) = '"' then advance; skipStringBody; colon else throw .malformed

/-- Where passing over stands. -/
inductive SkipState where
  | value
  /-- Behind an opening bracket. -/
  | opened
  /-- Behind a value. -/
  | closed
deriving DecidableEq, Repr

/-- Passes over the rest of a value inside the given containers, the innermost
first. -/
def skipFrom : Nat → SkipState → List Frame → Reader Unit
  | 0, _, _ => throw .malformed
  | budget + 1, .value, frames => do
      let c ← peek
      if c = '[' then advance; skipFrom budget .opened (.array :: frames)
      else if c = '\x7b' then advance; skipFrom budget .opened (.object :: frames)
      else
        if c = 'n' then word "null".toList
        else if c = 't' then word "true".toList
        else if c = 'f' then word "false".toList
        else if c = '"' then advance; skipStringBody
        else if c = '-' || isDigit c then skipNumber
        else throw .malformed
        skipFrom budget .closed frames
  | _ + 1, _, [] => pure ()
  | budget + 1, state, frame :: frames => do
      let c ← peek
      if c = frame.closing then advance; skipFrom budget .closed frames
      else if state = .opened then frame.skipName; skipFrom budget .value (frame :: frames)
      else if c = ',' then advance; frame.skipName; skipFrom budget .value (frame :: frames)
      else throw .malformed

/-- Passes over a value. -/
def skip (budget : Nat) : Reader Unit := skipFrom (2 * budget + 2) .value []

/-! ## Whole texts -/

/-- Reads a whole text.  Nothing but blanks may follow. -/
def readText {α : Type} (reader : Nat → Reader α) (s : String) : Except Fault α := do
  let cs := s.toList
  let (result, rest) ← reader cs.length cs
  if rest.all isSpace then pure result else throw .malformed

/-! ## Tests -/

/-- Whether a whole text is passed over without a fault. -/
def skips (s : String) : Bool := (readText skip s).toBool

example : skips " [1, \x7b\"a\": [true, null], \"\\ud800\": 1e999\x7d , []] " := by decide +kernel
example : !skips "[1,]" ∧ !skips "\x7b\"a\"\x7d" ∧ !skips "[1" ∧ !skips "01" := by decide +kernel

end BoundSql.Json
