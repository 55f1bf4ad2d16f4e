import BoundSql.Schema.Table
import BoundSql.Session

/-!
# Creating tables

A table definition can be compiled for any dialect.  To create the table takes a
session, whose dialect decides.  A dialect that has no table options leaves them
out, and then this is logged.
-/

namespace BoundSql

/-- A table definition, and the session that is to create the table if there is
one. -/
structure TableCreation (σ : Type) where
  session : Option (Session σ)
  /-- The definition. -/
  schema : TableSchema

namespace TableCreation

variable {σ : Type}

/-- A definition that can only be compiled. -/
def detached (schema : TableSchema) : TableCreation σ := ⟨none, schema⟩

/-- The statement for a dialect. -/
def sql (c : TableCreation σ) (d : Dialect) : String := c.schema.compile d

/-- Creates the table. -/
def execute (c : TableCreation σ) : Action σ Unit := do
  match c.session with
  | none => Action.fail (.misconfigured (.noSession c.schema.name))
  | some session =>
      if c.schema.hasIgnoredOptions session.dialect then
        Action.log (.optionsIgnored c.schema.name session.dialect)
      let _ ← session.execute (.plain (c.sql session.dialect))
      Action.log (.createdTable c.schema.name)

end TableCreation

end BoundSql
