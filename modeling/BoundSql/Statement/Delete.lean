import BoundSql.Dialect
import BoundSql.Filter

/-!
# Deletes

A `Delete` removes the rows that its filter selects.  Without predicates these
are all rows of the table.
-/

namespace BoundSql

/-- A delete from one table. -/
structure Delete where
  table : String
  /-- Which rows are removed. -/
  filter : Filter := {}
deriving Repr, Inhabited

namespace Delete

/-- Changes the filter. -/
def filtering (x : Delete) (change : Filter → Filter) : Delete :=
  { x with filter := change x.filter }

/-- The delete as a fragment. -/
def fragment (x : Delete) (d : Dialect) : Except Refusal Fragment := do
  if Text.isBlankText x.table then throw .missingTable
  let condition ← x.filter.clause
  pure (.text ("DELETE FROM " ++ d.quote x.table) ++ condition)

/-- The statement of the delete. -/
def build (x : Delete) (d : Dialect) : Except Refusal Statement :=
  (x.fragment d).map Fragment.statement

end Delete

end BoundSql
