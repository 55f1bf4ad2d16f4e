/-!
# Columns of a table

A column specification is a name, a declared type and four flags.  How the flags
are spelled is up to the database.
-/

namespace BoundSql

/-- A column of a table to be created. -/
structure ColumnSpec where
  name : String
  /-- The type, as it is written in the definition. -/
  type : String := "int"
  /-- Missing values are numbered. -/
  autoIncrement : Bool := false
  primaryKey : Bool := false
  /-- There is always a value. -/
  notNull : Bool := false
  /-- No value is there twice. -/
  unique : Bool := false
deriving DecidableEq, Repr, Inhabited

/-- A constraint of a column. -/
inductive Constraint where
  | primaryKey
  /-- There is always a value. -/
  | notNull
  /-- No value is there twice. -/
  | unique
  /-- Missing values are numbered. -/
  | autoIncrement
deriving DecidableEq, Repr

/-- The constraints of a column, in the order in which they are written. -/
def ColumnSpec.constraints (c : ColumnSpec) : List Constraint :=
  (if c.primaryKey then [.primaryKey] else []) ++ (if c.notNull then [.notNull] else [])
    ++ (if c.unique then [.unique] else []) ++ (if c.autoIncrement then [.autoIncrement] else [])

end BoundSql
