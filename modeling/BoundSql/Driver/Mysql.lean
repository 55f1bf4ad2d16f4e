import BoundSql.Driver.Connection
import BoundSql.Number.Reading

/-!
# The MySQL backend

A server names the type of each column and sends cells that depend on it.
`ColumnType.decode` reads a cell as a value.  Unsigned integers beyond the range
of signed words stay text.  So do dates and times, with as many places after the
second as it takes, which is none, three or six.  A decimal is an integer or a
double if it can be read as one.

The server reports the key of an insert as an unsigned word.  Zero means that
there is none, and words beyond the range of signed ones cannot be reported.
-/

namespace BoundSql.Mysql

/-! ## Dates and times -/

/-- A day. -/
structure Date where
  year : Nat
  /-- The month, from one. -/
  month : Nat
  /-- The day of the month, from one. -/
  day : Nat
deriving DecidableEq, Repr

/-- A time of day. -/
structure Time where
  hour : Nat
  minute : Nat
  second : Nat
  /-- The microseconds beyond the second. -/
  micros : Nat := 0
deriving DecidableEq, Repr

/-- The beginning of a day. -/
def Time.midnight : Time := ⟨0, 0, 0, 0⟩

/-- A number in at least this many digits. -/
def padded (width n : Nat) : String :=
  let digits := Nat.toDigits 10 n
  String.ofList (List.replicate (width - digits.length) '0' ++ digits)

/-- The text of a day.  Years of more than four digits have a sign. -/
def Date.text (d : Date) : String :=
  (if d.year < 10000 then padded 4 d.year else "+" ++ toString d.year)
    ++ "-" ++ padded 2 d.month ++ "-" ++ padded 2 d.day

/-- The places after the second: none, three or six. -/
def fractionText (micros : Nat) : String :=
  if micros = 0 then ""
  else if micros % 1000 = 0 then "." ++ padded 3 (micros / 1000)
  else "." ++ padded 6 micros

/-- The text of a time of day. -/
def Time.text (t : Time) : String :=
  padded 2 t.hour ++ ":" ++ padded 2 t.minute ++ ":" ++ padded 2 t.second ++ fractionText t.micros

/-! ## Columns -/

/-- The types of columns that are read in different ways. -/
inductive ColumnType where
  /-- A truth value. -/
  | boolean
  | signed
  | unsigned
  /-- A number of single precision. -/
  | single
  | double
  /-- A day and a time. -/
  | moment
  /-- A day. -/
  | date
  | time
  /-- Bytes. -/
  | binary
  /-- A decimal as text. -/
  | decimal
  | text
deriving DecidableEq, Repr

/-- The names of the types of bytes. -/
def binaryNames : List String :=
  ["BLOB", "TINYBLOB", "MEDIUMBLOB", "LONGBLOB", "BINARY", "VARBINARY", "BIT", "GEOMETRY"]

/-- The type that a name of the server means. -/
def ColumnType.ofName (name : String) : ColumnType :=
  if name = "BOOLEAN" then boolean
  else if ["TINYINT", "SMALLINT", "MEDIUMINT", "INT", "BIGINT", "YEAR"].contains name then signed
  else if name.endsWith "UNSIGNED" then unsigned
  else if name = "FLOAT" then single
  else if name = "DOUBLE" then double
  else if name = "DATETIME" || name = "TIMESTAMP" then moment
  else if name = "DATE" then date
  else if name = "TIME" then time
  else if binaryNames.contains name then binary
  else if name = "DECIMAL" || name = "NUMERIC" then decimal
  else text

/-- What the server sends for a cell of a type. -/
def ColumnType.Content : ColumnType → Type
  | boolean => Int64
  | signed => Int64
  | unsigned => UInt64
  | single => UInt32
  | double => Binary64
  | moment => Date × Time
  | date => Date
  | time => Time
  | binary => List UInt8
  | decimal => String
  | text => String

/-- A decimal as a number if it can be read as one. -/
def decimalValue (s : String) : Value :=
  match readWord? s with
  | some n => .int n
  | none =>
      match readBinary64? s with
      | some x => if x.isFinite then .float x else .text s
      | none => .text s

/-- An unsigned integer, as text if it is beyond the range of signed words. -/
def unsignedValue (n : UInt64) : Value :=
  match toWord? (n.toNat : Int) with
  | some word => .int word
  | none => .text (toString n.toNat)

/-- The value of a cell. -/
def ColumnType.decode : (t : ColumnType) → t.Content → Value
  | boolean, (n : Int64) => .bool (n != 0)
  | signed, n => .int n
  | unsigned, n => unsignedValue n
  | single, bits => .float (.ofSingle bits)
  | double, x => .float x
  | moment, m => .text (m.1.text ++ " " ++ m.2.text)
  | date, d => .text d.text
  | time, t => .text t.text
  | binary, bytes => .blob bytes
  | decimal, s => decimalValue s
  | text, s => .text s

/-- A cell of a row. -/
structure Cell where
  type : ColumnType
  /-- The content, if there is any. -/
  content : Option type.Content

/-- The value of a cell. -/
def Cell.value (c : Cell) : Value := (c.content.map c.type.decode).getD .null

/-! ## Answers of a server -/

/-- An error of the server. -/
structure ServerError where
  number : Nat
  /-- The state in five letters. -/
  state : Option String
  /-- The words. -/
  message : String
deriving DecidableEq, Repr

/-- The numbers of the errors that say that a key is already there. -/
def duplicateNumbers : List Nat := [1022, 1062, 1169, 1586, 1859]

/-- The failure that an error of the server means. -/
def ServerError.failure (e : ServerError) : DriverFailure :=
  let state := (e.state.map fun s => " (" ++ s ++ ")").getD ""
  .ofDatabase (toString e.number ++ state ++ ": " ++ e.message) e.state
    (if duplicateNumbers.contains e.number then .uniqueViolation else .other)

/-- What a server says about a statement that writes. -/
structure ServerOutcome where
  /-- The number of affected rows. -/
  affected : UInt64
  /-- The key of the last insert, or zero. -/
  insertId : UInt64
deriving DecidableEq, Repr, Inhabited

/-- The key of an insert, if there is one that can be reported. -/
def keyOfWord? (n : UInt64) : Option Int64 := if n = 0 then none else toWord? (n.toNat : Int)

/-- A server with a state of type `σ`. -/
structure Server (σ : Type) where
  /-- Runs a statement that returns no rows. -/
  execute : String → List Scalar → σ → Except ServerError ServerOutcome × σ
  /-- Runs a query. -/
  fetchAll : String → List Scalar → σ → Except ServerError (List (List (String × Cell))) × σ

/-! ## The backend -/

/-- The name of the type under which a scalar is bound. -/
def boundType : Scalar → String
  | .null => "NULL"
  | .bool _ => "TINYINT"
  | .int _ => "BIGINT"
  | .float _ => "DOUBLE"
  | .text _ => "VARCHAR"
  | .blob _ => "BLOB"

/-- The report on a statement that writes. -/
def ServerOutcome.report (o : ServerOutcome) : WriteReport :=
  { affected := o.affected, key := keyOfWord? o.insertId }

/-- The row of some cells. -/
def rawRow (cells : List (String × Cell)) : RawRow := cells.map fun e => (e.1, e.2.value)

/-- The backend of a server. -/
def backend {σ : Type} (server : Server σ) : Backend σ where
  name := "mysql"
  execute sql params s :=
    let (answer, s') := server.execute sql params s
    ((answer.mapError ServerError.failure).map ServerOutcome.report, s')
  fetchAll sql params s :=
    let (answer, s') := server.fetchAll sql params s
    ((answer.mapError ServerError.failure).map fun rows => rows.map rawRow, s')

/-! ## Tests -/

example : (Time.mk 1 2 3 400000).text = "01:02:03.400" ∧ (Time.mk 1 2 3 4).text = "01:02:03.000004" := by
  decide +kernel
example : (decimalValue "20.50").inline = "20.5" ∧ (decimalValue "+5").inline = "5"
    ∧ (decimalValue "1e400").inline = "'1e400'" := by decide +kernel
example : (unsignedValue 9223372036854775808).inline = "'9223372036854775808'" := by decide +kernel

end BoundSql.Mysql
