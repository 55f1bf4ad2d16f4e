import BoundSql.Embedded.Cell

/-!
# Commands

The statements that the embedded database understands, as trees.  It understands
what a session sends: tables are created, rows are inserted, updated, deleted and
selected, and a transaction begins and ends.
-/

namespace BoundSql.Embedded

/-! ## Expressions -/

/-- An operator between two expressions. -/
inductive BinaryOp where
  /-- At least one holds. -/
  | or
  /-- Both hold. -/
  | and
  | eq
  /-- They are not equal. -/
  | ne
  /-- They are equal, where nothing is equal to nothing. -/
  | is
  /-- They are not equal, where nothing is equal to nothing. -/
  | isNot
  /-- The first comes before the second. -/
  | lt
  /-- The first does not come after the second. -/
  | le
  /-- The first comes after the second. -/
  | gt
  /-- The first does not come before the second. -/
  | ge
  /-- Their sum. -/
  | add
  /-- Their difference. -/
  | sub
deriving DecidableEq, Repr

/-- An expression. -/
inductive Expr where
  /-- A cell. -/
  | literal (c : Cell)
  /-- What is bound to a placeholder. -/
  | param (index : Nat)
  /-- A column, perhaps of a named table. -/
  | column (table : Option String) (name : String)
  /-- A column, or a text if there is no such column. -/
  | quoted (name : String)
  /-- A function of some arguments. -/
  | call (name : String) (arguments : List Expr)
  | negate (e : Expr)
  /-- It does not hold. -/
  | not (e : Expr)
  /-- Two expressions with an operator between them. -/
  | binary (op : BinaryOp) (a b : Expr)
  /-- It is one of some others. -/
  | isIn (e : Expr) (items : List Expr)
deriving Repr, Inhabited

/-! ## Definitions -/

/-- The name of a table, perhaps behind the name of a database. -/
structure TableName where
  database : Option String := none
  name : String
deriving DecidableEq, Repr

/-- A name with a point behind the name of the database. -/
def TableName.path (t : TableName) : String :=
  match t.database with
  | some d => d ++ "." ++ t.name
  | none => t.name

/-- The definition of a column. -/
structure ColumnDef where
  name : String
  type : String
  primaryKey : Bool := false
  /-- Rows are numbered, and no number is used twice. -/
  autoincrement : Bool := false
  /-- There is always a value. -/
  notNull : Bool := false
  /-- No value is there twice. -/
  unique : Bool := false
deriving DecidableEq, Repr

/-! ## Inserts -/

/-- What to do about a row that is already there. -/
inductive Resolution where
  /-- The statement is rejected. -/
  | abort
  /-- The new row is left out. -/
  | ignore
  /-- The rows that are there are taken away. -/
  | replace
deriving DecidableEq, Repr

/-- Columns with the expressions that they take. -/
abbrev Assignments := List (String × Expr)

/-- What to do to a row that is already there. -/
structure Merge where
  /-- The columns of a key. -/
  target : List Expr
  /-- What the row that is there takes. -/
  assignments : Assignments
deriving Repr

/-! ## Queries -/

/-- What a query returns. -/
inductive Item where
  /-- Every column. -/
  | all
  /-- An expression, under a name if it has one, with the way it is spelled. -/
  | expr (e : Expr) (label : Option String) (spelling : String)
deriving Repr

/-- Where a query takes its rows from. -/
inductive Source where
  | table (name : TableName) (label : Option String)
  /-- One row of named expressions. -/
  | row (items : List Item) (label : Option String)
deriving Repr

/-- A query. -/
structure Query where
  /-- What it returns. -/
  items : List Item
  /-- Where it takes its rows from. -/
  source : Option Source := none
  /-- Which rows it takes. -/
  condition : Option Expr := none
  /-- The terms of the order.  The flag is for descending ones. -/
  order : List (Expr × Bool) := []
  /-- How many rows it passes over, and how many it returns at most. -/
  limit : Option (Expr × Expr) := none
deriving Repr

/-! ## Commands -/

/-- A statement. -/
inductive Command where
  | create (table : TableName) (spelling : String) (ifNotExists : Bool)
      (columns : List ColumnDef)
  | insert (resolution : Resolution) (table : TableName) (columns : Option (List String))
      (rows : List (List Expr)) (merge : Option Merge)
  | update (table : TableName) (assignments : Assignments) (condition : Option Expr)
  | delete (table : TableName) (condition : Option Expr)
  | select (query : Query)
  /-- Begins a transaction. -/
  | start
  /-- Ends a transaction. -/
  | commit
  /-- Undoes a transaction. -/
  | rollback
deriving Repr

end BoundSql.Embedded
