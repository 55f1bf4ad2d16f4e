import BoundSql.Json.Document
import BoundSql.Refusal

/-!
# Faults of a JSON text

A text is read from left to right for a given purpose, and the first fault that
is met decides.  It is one of three.  The text is *malformed*: it cannot be the
beginning of any JSON text, or it is but something that belongs to another value
follows.  It is *truncated*: it ends too early.  Or it is a *mismatch*: well
formed up to here, but not what the purpose asks for.
-/

namespace BoundSql.Json

/-- What stands in a text where something else is asked for. -/
inductive Found where
  /-- `null` -/
  | null
  /-- A truth value. -/
  | bool (b : Bool)
  /-- An integer of at most 64 bits. -/
  | integer (n : Int)
  /-- Any other number. -/
  | float (x : Binary64)
  | string (s : String)
  /-- The beginning of an array. -/
  | sequence
  /-- The beginning of an object. -/
  | map
deriving DecidableEq, Repr

/-- The words for what was found. -/
def Found.describe : Found → String
  | null => "null"
  | bool b => "boolean `" ++ (if b then "true" else "false") ++ "`"
  | integer n => "integer `" ++ toString n ++ "`"
  | float x => "floating point `" ++ floatText x ++ "`"
  | string s => "string " ++ Text.quoted s
  | sequence => "sequence"
  | map => "map"

/-- Why a well-formed text is not what is asked for. -/
inductive Mismatch where
  /-- Something of another type stands here. -/
  | invalidType (found : Found) (expected : String)
  /-- An integer out of range stands here. -/
  | invalidValue (found : Found) (expected : String)
  /-- An array ends before its required items. -/
  | invalidLength (length : Nat) (expected : String)
  /-- A required member is not there. -/
  | missingField (name : String)
  /-- A member is there twice. -/
  | duplicateField (name : String)
  /-- A value holds an object. -/
  | noVariant
  /-- What was read is refused. -/
  | refused (refusal : Refusal)
deriving Repr

/-- The text for the user. -/
def Mismatch.message : Mismatch → String
  | invalidType found expected => "invalid type: " ++ found.describe ++ ", expected " ++ expected
  | invalidValue found expected => "invalid value: " ++ found.describe ++ ", expected " ++ expected
  | invalidLength length expected =>
      "invalid length " ++ toString length ++ ", expected " ++ expected
  | missingField name => "missing field `" ++ name ++ "`"
  | duplicateField name => "duplicate field `" ++ name ++ "`"
  | noVariant => "data did not match any variant of untagged enum SqlValue"
  | refused refusal => refusal.message

/-- The first fault of a text. -/
inductive Fault where
  /-- No JSON text begins like this. -/
  | malformed
  /-- The text ends too early. -/
  | truncated
  /-- The text is not what is asked for. -/
  | mismatch (cause : Mismatch)
deriving Repr

/-- Reads a prefix of a text and returns the rest of it. -/
abbrev Reader (α : Type) := StateT (List Char) (Except Fault) α

/-- Fails with a mismatch. -/
def fail {α : Type} (cause : Mismatch) : Reader α := throw (.mismatch cause)

end BoundSql.Json
