import BoundSql.Dialect
import BoundSql.Filter

/-!
# Updates

An `Update` assigns to columns of the rows that its filter selects.  A column
takes a value or has one added to it.  The values of the assignments are bound
before those of the filter.  Without predicates every row of the table is
written.
-/

namespace BoundSql

/-- An assignment to one column. -/
inductive Assignment where
  /-- The column takes the value. -/
  | set (column : String) (value : Value)
  /-- The value is added to the column. -/
  | increment (column : String) (amount : Value)
deriving Repr, Inhabited

/-- An assignment as it stands in the statement. -/
def Assignment.render (d : Dialect) : Assignment → Fragment
  | .set column value => .text (d.quote column ++ " = ") ++ .bound value
  | .increment column amount =>
      .text (d.quote column ++ " = " ++ d.quote column ++ " + ") ++ .bound amount

/-- An update of one table. -/
structure Update where
  table : String
  assignments : List Assignment := []
  /-- Which rows are written. -/
  filter : Filter := {}
deriving Repr, Inhabited

namespace Update

/-- Changes the filter. -/
def filtering (u : Update) (change : Filter → Filter) : Update :=
  { u with filter := change u.filter }

/-- One more assignment. -/
def assign (u : Update) (a : Assignment) : Update := { u with assignments := u.assignments ++ [a] }

/-- The column takes the value. -/
def set (u : Update) (column : String) (value : Value) : Update := u.assign (.set column value)

/-- The columns of the row take its values. -/
def setRow (u : Update) (row : Row) : Update :=
  { u with assignments := u.assignments ++ row.entries.map fun e => .set e.1 e.2 }

/-- The amount is added to the column. -/
def increment (u : Update) (column : String) (amount : Value) : Update :=
  u.assign (.increment column amount)

/-- The update as a fragment. -/
def fragment (u : Update) (d : Dialect) : Except Refusal Fragment := do
  if Text.isBlankText u.table then throw .missingTable
  if u.assignments.isEmpty then throw (.emptyData .update)
  let condition ← u.filter.clause
  pure (.text ("UPDATE " ++ d.quote u.table ++ " SET ")
    ++ .joined ", " (u.assignments.map (Assignment.render d)) ++ condition)

/-- The statement of the update. -/
def build (u : Update) (d : Dialect) : Except Refusal Statement :=
  (u.fragment d).map Fragment.statement

end Update

end BoundSql
