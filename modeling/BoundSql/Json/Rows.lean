import BoundSql.Json.Reader
import BoundSql.Row

/-!
# Values and rows in JSON

A value is written as the JSON scalar of its kind, a list as an array, a blob as
the array of its bytes.  A row is written as an object whose members are its
columns in order.

Reading gives back what was written, except that a blob comes back as a list of
integers and a double that is not finite as no value.  An integer outside of the
range of `Int64` is read as a double.  An object inside a value makes the value
a mismatch once the value is read to its end.  At most 127 arrays and objects may
be nested.  In a row, a column that is there twice keeps its first position and
its last value.
-/

namespace BoundSql

/-! ## Writing -/

/-- The document of a value. -/
def Value.toJson : Value → Json
  | .null => .null
  | .bool b => .bool b
  | .int n => .integer n.toInt
  | .float x => .float x
  | .text s => .string s
  | .list items => .array (toJsons items)
  | .blob bytes => .array (bytes.map fun b => .integer b.toNat)
where
  /-- The documents of the items of a list. -/
  toJsons : List Value → List Json
    | [] => []
    | v :: vs => v.toJson :: toJsons vs

/-- The document of a list of parameters. -/
def Value.listToJson (vs : List Value) : Json := .array (Value.toJson.toJsons vs)

/-- The document of a row. -/
def Row.toJson (r : Row) : Json := .object (r.entries.map fun e => (e.1, e.2.toJson))

/-! ## Reading -/

namespace Json

/-- The value of a number. -/
def Number.toValue : Number → Value
  | .integer n =>
      match toWord? n with
      | some w => .int w
      | none => .float (.ofInt n)
  | .float x => .float x

/-- The list of values that are all there. -/
def allOf (vs : List (Option Value)) : Option Value := (vs.mapM id).map .list

/-- Reads a scalar, or an array or an object as the two given readers do. -/
def contentWith (arrayReader objectReader : Reader (Option Value)) : Reader (Option Value) := do
  let c ← peek
  if c = 'n' then word "null".toList; pure (some .null)
  else if c = 't' then word "true".toList; pure (some (.bool true))
  else if c = 'f' then word "false".toList; pure (some (.bool false))
  else if c = '"' then advance; pure (some (.text (← stringBody)))
  else if c = '[' then arrayReader
  else if c = '\x7b' then objectReader
  else if c = '-' || isDigit c then pure (some (← readNumber).toValue)
  else throw .malformed

/-- Reads a document of at most the given nesting as a value.  There is no value
if the document holds an object. -/
def content (budget : Nat) : Nat → Reader (Option Value)
  | 0 => contentWith (throw .malformed) (throw .malformed)
  | depth + 1 =>
      contentWith
        (do advance; allOf <$> items budget (content budget depth))
        (do
          advance
          members budget (fun _ _ => do colon; let _ ← content budget depth) ()
          pure none)

/-- The number of arrays and objects that may be nested. -/
def maxDepth : Nat := 127

/-- Reads a value inside the given number of arrays and objects. -/
def valueAt (outer budget : Nat) : Reader Value := do
  match ← content budget (maxDepth - outer) with
  | some v => pure v
  | none => fail .noVariant

/-- Reads a row inside the given number of arrays and objects. -/
def rowAt (outer budget : Nat) : Reader Row :=
  readObject budget "a map of column names to values"
    (fun row column => do colon; pure (row.set column (← valueAt (outer + 1) budget))) Row.empty

end Json

/-- Reads a whole text as a value. -/
def Value.ofJson (s : String) : Except Json.Fault Value := Json.readText (Json.valueAt 0) s

/-- Reads a whole text as a row. -/
def Row.ofJson (s : String) : Except Json.Fault Row := Json.readText (Json.rowAt 0) s

/-- Reads a whole text as a list of rows. -/
def Row.listOfJson (s : String) : Except Json.Fault (List Row) :=
  Json.readText (fun budget => Json.readArray budget (Json.rowAt 1 budget)) s

/-! ## Tests -/

/-- The text that a text is written back as, if it is read without a fault. -/
def recompacted (s : String) : Option String :=
  (Value.ofJson s).toOption.map fun v => v.toJson.compact

example : recompacted " [ 1 , \"a\" , null , true , 2.5 ] " = some "[1,\"a\",null,true,2.5]" := by
  decide +kernel
example : recompacted "[1,\x7b\x7d]" = none ∧ recompacted "[1,]" = none := by decide +kernel

end BoundSql
