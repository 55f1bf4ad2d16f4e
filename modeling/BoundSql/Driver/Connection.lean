import BoundSql.Driver
import BoundSql.Value

/-!
# Connections

A *backend* is the bare access to a database: it takes scalars for the
placeholders of a statement, and answers with the number of affected rows and
the key of its last insert, or with rows whose columns may have equal names.

A *connection* is the state of a backend together with the most recent key.  The
driver of a connection refuses a list among the parameters.  It reports a key
only for statements that insert and did affect rows, and remembers it.  Of
columns with equal names a row keeps one, with the last value.
-/

namespace BoundSql

/-! ## Scalars -/

/-- A value that can be bound to a placeholder. -/
inductive Scalar where
  /-- No value. -/
  | null
  /-- A truth value. -/
  | bool (b : Bool)
  /-- A signed 64-bit integer. -/
  | int (n : Int64)
  /-- A double. -/
  | float (x : Binary64)
  | text (s : String)
  /-- Bytes. -/
  | blob (bytes : List UInt8)
deriving DecidableEq, Repr, Inhabited

/-- The scalar of a value that is one. -/
def Value.toScalar? : Value → Option Scalar
  | .null => some .null
  | .bool b => some (.bool b)
  | .int n => some (.int n)
  | .float x => some (.float x)
  | .text s => some (.text s)
  | .blob bytes => some (.blob bytes)
  | .list _ => none

/-- The value of a scalar. -/
def Scalar.toValue : Scalar → Value
  | null => .null
  | bool b => .bool b
  | int n => .int n
  | float x => .float x
  | text s => .text s
  | blob bytes => .blob bytes

theorem Scalar.toScalar?_toValue (x : Scalar) : x.toValue.toScalar? = some x := by cases x <;> rfl

/-! ## Statements that insert -/

/-- The text begins with the word, in any case. -/
def beginsWith (word : String) (cs : List Char) : Bool :=
  word.toList.isPrefixOf (cs.map Char.toLower)

/-- The statement inserts rows, going by its first letters behind blanks. -/
def inserts (sql : String) : Bool :=
  let head := (Text.trimStart sql).toList
  beginsWith "insert" head || beginsWith "replace" head

/-! ## Backends -/

/-- What a backend says about a statement that writes. -/
structure WriteReport where
  /-- The number of affected rows. -/
  affected : UInt64
  /-- The key of the last insert, if it is one that can be reported. -/
  key : Option Int64
deriving DecidableEq, Repr, Inhabited

/-- The columns of a row with their values.  Names may be equal. -/
abbrev RawRow := List (String × Value)

/-- The bare access to a database. -/
structure Backend (σ : Type) where
  name : String
  /-- Runs a statement that returns no rows. -/
  execute : String → List Scalar → σ → Except DriverFailure WriteReport × σ
  /-- Runs a query. -/
  fetchAll : String → List Scalar → σ → Except DriverFailure (List RawRow) × σ

/-! ## Connections -/

/-- The state of a connection. -/
structure Connection (σ : Type) where
  /-- The state of the backend. -/
  database : σ
  /-- The most recent key. -/
  lastInsertId : Option Int64 := none
deriving Repr

namespace Connection

variable {σ : Type}

/-- The failure to bind a list. -/
def listBound : DriverFailure :=
  { message := "list values can't be bound to a single placeholder" }

/-- The scalars that are bound, if all parameters are scalar. -/
def bindAll (params : List Value) : Except DriverFailure (List Scalar) :=
  match params.mapM Value.toScalar? with
  | some scalars => .ok scalars
  | none => .error listBound

/-- What is reported about a statement that writes. -/
def outcome (sql : String) (report : WriteReport) : Outcome :=
  { affected := report.affected
    insertId := if 0 < report.affected && inserts sql then report.key else none }

/-- Runs a statement that returns no rows, and remembers its key. -/
def execute (b : Backend σ) (statement : Statement) (c : Connection σ) :
    Except DriverFailure Outcome × Connection σ :=
  match bindAll statement.params with
  | .error failure => (.error failure, c)
  | .ok scalars =>
      match b.execute statement.sql scalars c.database with
      | (.error failure, database) => (.error failure, { c with database })
      | (.ok report, database) =>
          let outcome := outcome statement.sql report
          (.ok outcome,
            { database, lastInsertId := outcome.insertId.orElse fun _ => c.lastInsertId })

/-- Runs a query. -/
def fetchAll (b : Backend σ) (statement : Statement) (c : Connection σ) :
    Except DriverFailure (List Row) × Connection σ :=
  match bindAll statement.params with
  | .error failure => (.error failure, c)
  | .ok scalars =>
      match b.fetchAll statement.sql scalars c.database with
      | (.error failure, database) => (.error failure, { c with database })
      | (.ok rows, database) => (.ok (rows.map Row.ofPairs), { c with database })

end Connection

/-- The driver of a backend. -/
def Backend.driver {σ : Type} (b : Backend σ) : Driver (Connection σ) where
  name := b.name
  execute := Connection.execute b
  fetchAll := Connection.fetchAll b
  lastInsertId := (·.lastInsertId)

/-! ## Tests -/

example : inserts " \u3000Insert or ignore" ∧ inserts "REPLACEx" ∧ ¬ inserts "/**/ INSERT"
    ∧ ¬ inserts "INSER\u00E9" := by decide +kernel

end BoundSql
