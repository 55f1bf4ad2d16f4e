import BoundSql.Row

/-!
# Result sets

The rows of a query may be wanted in other shapes: the first row, the first
column of the first row, or the first column of every row.  A row without columns
has no first column.
-/

namespace BoundSql

/-- The first value of a row. -/
def Row.first? (r : Row) : Option Value := r.values.head?

/-- The rows that a query returned. -/
structure ResultSet where
  rows : List Row
deriving Repr, Inhabited

namespace ResultSet

/-- The number of rows. -/
def size (s : ResultSet) : Nat := s.rows.length

/-- There are no rows. -/
def isEmpty (s : ResultSet) : Bool := s.rows.isEmpty

/-- The first row. -/
def firstRow? (s : ResultSet) : Option Row := s.rows.head?

/-- The first column of the first row. -/
def value? (s : ResultSet) : Option Value := s.firstRow?.bind Row.first?

/-- The first column of every row that has one. -/
def columnValues (s : ResultSet) : List Value := s.rows.filterMap Row.first?

end ResultSet

end BoundSql
