import BoundSql.Driver.Connection
import BoundSql.Embedded.Database

/-!
# The SQLite backend

The backend of an SQLite database.  The database reports the number of the row that was inserted
last with every statement, whatever the statement is, and it is left to the connection whether that
is a key.

The database that the program uses is part of the program itself (`Sqlite.embedded`).
-/

namespace BoundSql.Sqlite

open Embedded (Database Cell NamedRow)

/-! ## Answers of a database -/

/-- What a database says about a statement that writes. -/
structure WriteAnswer where
  /-- The number of affected rows. -/
  changes : UInt64
  /-- The number of the row that was inserted last. -/
  lastNumber : Int64
deriving DecidableEq, Repr, Inhabited

/-- A database with a state of type `σ`. -/
structure Engine (σ : Type) where
  /-- Runs a statement that returns no rows. -/
  execute : String → List Scalar → σ → Except DriverFailure WriteAnswer × σ
  /-- Runs a query. -/
  fetchAll : String → List Scalar → σ → Except DriverFailure (List NamedRow) × σ

/-! ## The backend -/

/-- The report on a statement that writes. -/
def WriteAnswer.report (a : WriteAnswer) : WriteReport :=
  { affected := a.changes, key := some a.lastNumber }

/-- A row of named cells as values. -/
def rawRow (cells : NamedRow) : RawRow := cells.map fun e => (e.1, e.2.toValue)

/-- The backend of a database. -/
def Engine.backend {σ : Type} (engine : Engine σ) : Backend σ where
  name := "sqlite"
  execute sql params s :=
    let (answer, s') := engine.execute sql params s
    (answer.map WriteAnswer.report, s')
  fetchAll sql params s :=
    let (answer, s') := engine.fetchAll sql params s
    (answer.map fun rows => rows.map rawRow, s')

/-- The database in the program. -/
def embedded : Engine Database where
  execute sql params db :=
    let (answer, db') := db.runText sql (params.map Cell.ofScalar)
    ((answer.mapError (·.failure)).map fun a => ⟨UInt64.ofNat a.changes, db'.lastNumber⟩, db')
  fetchAll sql params db :=
    let (answer, db') := db.runText sql (params.map Cell.ofScalar)
    ((answer.mapError (·.failure)).map fun a => a.rows, db')

/-- The backend of a database in the program. -/
def backend : Backend Database := embedded.backend

/-- A connection to a database in the program. -/
abbrev Connection := BoundSql.Connection Database

/-- The driver of a connection to a database in the program. -/
def driver : Driver Connection := backend.driver

/-! ## Tests -/

/-- The outcome of a statement on an empty database with a sample table. -/
def sampleOutcome? (sql : String) (params : List Value) : Option Outcome :=
  let c := (driver.execute (.plain "CREATE TABLE t (id INTEGER PRIMARY KEY, v)") { database := {} }).2
  (driver.execute ⟨sql, params⟩ c).1.toOption

example : sampleOutcome? "INSERT INTO t (v) VALUES (?), (?)" [.int 1, .null]
    = some { affected := 2, insertId := some 2 } := by decide +kernel

end BoundSql.Sqlite
