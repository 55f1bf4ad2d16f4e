import BoundSql.Failure

/-!
# Drivers

A driver runs statements against a database whose state is of some type `σ`.  It
is a pair of functions that answer a statement and say what becomes of the state.
Nothing else is known about a driver: it may fail at any time, and its answers
need not have anything to do with the statements.
-/

namespace BoundSql

/-- What a statement that writes has done. -/
structure Outcome where
  /-- The number of rows that were inserted, updated or deleted. -/
  affected : UInt64 := 0
  /-- The key that was made for an inserted row. -/
  insertId : Option Int64 := none
deriving DecidableEq, Repr, Inhabited

/-- A way to run statements against a database. -/
structure Driver (σ : Type) where
  /-- The name of the driver, which tells the dialect. -/
  name : String
  /-- Runs a statement that returns no rows. -/
  execute : Statement → σ → Except DriverFailure Outcome × σ
  /-- Runs a query. -/
  fetchAll : Statement → σ → Except DriverFailure (List Row) × σ
  /-- The key that was made most recently. -/
  lastInsertId : σ → Option Int64

end BoundSql
