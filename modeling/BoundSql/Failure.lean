import BoundSql.Config.Fault
import BoundSql.Fragment
import BoundSql.Json.Rows

/-!
# Failures

An action on a database fails for one of four reasons.  A statement is refused
before it is sent, or something about the configuration is wrong, or no
connection can be opened, or the database rejects a statement.  In the last two
cases the driver says why.
-/

namespace BoundSql

/-! ## Failures of a driver -/

/-- The kinds of failure that a driver tells apart. -/
inductive DriverFailureKind where
  /-- A row with the same key is already there. -/
  | uniqueViolation
  /-- Anything else. -/
  | other
deriving DecidableEq, Repr

/-- What a driver says about a failure. -/
structure DriverFailure where
  /-- The words of the driver. -/
  message : String
  code : Option String := none
  kind : DriverFailureKind := .other
  /-- The failure results from another one. -/
  hasCause : Bool := false
deriving DecidableEq, Repr

namespace DriverFailure

/-- A row with the same key is already there. -/
def isUniqueViolation (f : DriverFailure) : Bool := f.kind == .uniqueViolation

/-- The failure that results from another one with the given words. -/
def caused (message : String) : DriverFailure := { message, hasCause := true }

/-- The failure that a database reports. -/
def ofDatabase (message : String) (code : Option String) (kind : DriverFailureKind) :
    DriverFailure :=
  { message := "error returned from database: " ++ message, code, kind, hasCause := true }

/-- The words of the driver behind the code in brackets. -/
def report (f : DriverFailure) : String :=
  match f.code with
  | some code => "[" ++ code ++ "] " ++ f.message
  | none => f.message

end DriverFailure

/-! ## Failures of an action -/

/-- Why an action on a database fails. -/
inductive Failure where
  /-- A statement is not compiled, or not sent. -/
  | refused (refusal : Refusal)
  /-- The configuration is at fault. -/
  | misconfigured (fault : ConfigFault)
  /-- No connection is opened. -/
  | unreachable (cause : DriverFailure)
  /-- The database rejects a statement. -/
  | rejected (statement : Statement) (cause : DriverFailure)
deriving Repr

/-- The parameters of a statement as JSON. -/
def Statement.paramsText (s : Statement) : String := (Value.listToJson s.params).compact

namespace Failure

/-- The text for the user. -/
def message : Failure → String
  | refused refusal => refusal.message
  | misconfigured fault => "configuration error: " ++ fault.message
  | unreachable cause => "connection failed: " ++ cause.report
  | rejected statement cause =>
      cause.report ++ "; sql: " ++ Text.squeeze statement.sql ++ "; params: " ++ statement.paramsText

/-- The database rejects a row because one with the same key is already there. -/
def isDuplicateKey : Failure → Bool
  | rejected _ cause => cause.isUniqueViolation
  | _ => false

/-! ## Tests -/

example : (rejected ⟨"INSERT INTO t\n (a) VALUES (?)", [.text "x"]⟩ { message := "boom" }).message
    = "boom; sql: INSERT INTO t (a) VALUES (?); params: [\"x\"]" := by decide +kernel

end Failure

end BoundSql
