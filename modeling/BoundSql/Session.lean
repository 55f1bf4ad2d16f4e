import BoundSql.Action
import BoundSql.ResultSet
import BoundSql.Statement.Select

/-!
# Sessions

A session is a driver together with the dialect that its name tells, and a
ceiling on the parameters of one statement of a batch.  All statements go through
`Session.execute` or `Session.fetchAll`, which refuse a list among the parameters
before anything is sent.

A transaction is an action between `BEGIN` and `COMMIT`.  If the action fails,
`ROLLBACK` takes the place of `COMMIT`, and the failure of the action is the
failure of the transaction, whatever becomes of the `ROLLBACK`.
-/

namespace BoundSql

/-- The ceiling on parameters that is asked for by default. -/
def defaultMaxParams : UInt64 := 60000

/-- A driver whose dialect is known. -/
structure Session (σ : Type) where
  driver : Driver σ
  /-- The dialect that statements are compiled for. -/
  dialect : Dialect
  /-- The number of parameters that one statement of a batch may have. -/
  maxParams : UInt64

namespace Session

variable {σ α : Type}

/-- Begins a session that asks for a ceiling on parameters.  The dialect has a
ceiling of its own, which is never exceeded. -/
def make (driver : Driver σ) (requested : UInt64) : Action σ (Session σ) := do
  let dialect ← Action.ofCompiled (Dialect.ofDriverName driver.name)
  if requested = 0 then Action.fail (.misconfigured .zeroCeiling)
  else
    let maxParams := min requested (UInt64.ofNat dialect.maxBindParams)
    if maxParams < requested then
      Action.log (.clampedCeiling requested maxParams dialect)
    pure ⟨driver, dialect, maxParams⟩

/-- The word for a dialect in descriptions. -/
def dialectWord : Dialect → String
  | .mysql => "MySql"
  | .sqlite => "Sqlite"

/-- A description for whoever looks for an error. -/
def describe (s : Session σ) : String :=
  "Session \x7b driver: " ++ Text.quoted s.driver.name ++ ", dialect: " ++ dialectWord s.dialect
    ++ ", max_params: " ++ toString s.maxParams.toNat ++ ", .. \x7d"

/-- The key that was made most recently on the connection. -/
def lastInsertId (s : Session σ) : Action σ (Option Int64) := Action.view s.driver.lastInsertId

/-! ## Statements -/

/-- Refuses a list among the parameters. -/
def checkParams (params : List Value) : Except Refusal Unit :=
  match Value.firstNonScalar? params with
  | none => .ok ()
  | some (index, value) => .error (.nonScalarParameter index value)

/-- Takes the answer to a statement, or fails if the statement was rejected. -/
def accept (statement : Statement) (record : α → LogRecord) (answer : Except DriverFailure α) :
    Action σ α :=
  match answer with
  | .ok a => do
      Action.log (record a)
      pure a
  | .error cause => do
      Action.log (.rejected statement cause)
      Action.fail (.rejected statement cause)

/-- Runs a statement that returns no rows. -/
def execute (s : Session σ) (statement : Statement) : Action σ Outcome := do
  Action.ofCompiled (checkParams statement.params)
  let answer ← Action.send .execute s.driver.execute statement
  accept statement (fun outcome => .executed statement outcome.affected) answer

/-- Runs a query. -/
def fetchAll (s : Session σ) (statement : Statement) : Action σ (List Row) := do
  Action.ofCompiled (checkParams statement.params)
  let answer ← Action.send .fetchAll s.driver.fetchAll statement
  accept statement (fun rows => .fetched statement rows.length) answer

/-- Runs a query of the caller. -/
def selectRaw (s : Session σ) (statement : Statement) : Action σ ResultSet := do
  pure ⟨← s.fetchAll statement⟩

/-- Compiles and runs a query. -/
def query (s : Session σ) (select : Select) : Action σ ResultSet := do
  s.selectRaw (← Action.ofCompiled select.build)

/-! ## Transactions -/

/-- Undoes a transaction.  That this fails is worth a record and no more. -/
def rollback (s : Session σ) : Action σ Unit := do
  match ← (s.execute (.plain "ROLLBACK")).attempt with
  | .ok _ => pure ()
  | .error failure => Action.log (.rollbackFailed failure)

/-- Does an action inside a transaction. -/
def transaction (s : Session σ) (body : Action σ α) : Action σ α := do
  let _ ← s.execute (.plain "BEGIN")
  match ← body.attempt with
  | .ok a =>
      let _ ← s.execute (.plain "COMMIT")
      pure a
  | .error failure =>
      s.rollback
      Action.fail failure

end Session

end BoundSql
