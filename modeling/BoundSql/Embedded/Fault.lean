import BoundSql.Failure

/-!
# Faults of the embedded database

Why a statement is rejected.  Each fault has a code, which is one for everything
that is wrong with the statement itself.
-/

namespace BoundSql.Embedded

/-- Why a statement is rejected. -/
inductive SqlFault where
  /-- The statement cannot go on with this token. -/
  | syntaxNear (spelling : String)
  /-- The statement ends too early. -/
  | incomplete
  /-- These characters are no token. -/
  | unrecognized (spelling : String)
  | noSuchTable (name : String)
  | noSuchColumn (name : String)
  | noSuchFunction (name : String)
  /-- A function of several rows stands where there is only one. -/
  | misusedFunction (name : String)
  /-- A function has too few or too many arguments. -/
  | argumentCount (function : String)
  /-- A term of an order is the number of a column that is not there. -/
  | orderOutOfRange (place columns : Nat)
  /-- A query returns every column, but takes its rows from nowhere. -/
  | nothingToReturn
  /-- The table has no column to insert into. -/
  | noColumnNamed (table column : String)
  /-- The table cannot be changed. -/
  | readOnlyTable (name : String)
  /-- The table is already there. -/
  | tableExists (spelling : String)
  /-- A table has two columns of one name. -/
  | duplicateColumn (name : String)
  /-- A table has two primary keys. -/
  | secondPrimaryKey (table : String)
  /-- Only an integer primary key is numbered. -/
  | misplacedNumbering
  /-- A row of an insert has too few or too many values. -/
  | valueCount (values columns : Nat)
  /-- A row of an insert does not fit the table. -/
  | rowWidth (table : String) (columns values : Nat)
  /-- The rows of an insert have different lengths. -/
  | unevenRows
  /-- No key of the table is on the columns of a conflict. -/
  | noConflictTarget
  /-- There is a transaction already. -/
  | insideTransaction
  /-- There is no transaction to end. -/
  | outsideTransaction (verb : String)
  /-- A row with the same key is already there. -/
  | notUnique (column : String) (isPrimary : Bool)
  /-- A column that needs a value has none. -/
  | missingValue (column : String)
  /-- A cell is of the wrong kind. -/
  | mismatch
  /-- There are no more keys for rows. -/
  | full
  /-- The file cannot be opened. -/
  | cannotOpen
  /-- The file holds something else. -/
  | notADatabase
deriving DecidableEq, Repr

namespace SqlFault

/-- The code of a fault. -/
def code : SqlFault → Nat
  | notUnique _ isPrimary => if isPrimary then 1555 else 2067
  | missingValue _ => 1299
  | mismatch => 20
  | full => 13
  | cannotOpen => 14
  | notADatabase => 26
  | _ => 1

/-- The letters behind a number that make it an ordinal. -/
def ordinalEnding (n : Nat) : String :=
  if n / 10 % 10 = 1 then "th"
  else if n % 10 = 1 then "st"
  else if n % 10 = 2 then "nd"
  else if n % 10 = 3 then "rd"
  else "th"

/-- The words for a fault. -/
def message : SqlFault → String
  | syntaxNear spelling => "near \"" ++ spelling ++ "\": syntax error"
  | incomplete => "incomplete input"
  | unrecognized spelling => "unrecognized token: \"" ++ spelling ++ "\""
  | noSuchTable name => "no such table: " ++ name
  | noSuchColumn name => "no such column: " ++ name
  | noSuchFunction name => "no such function: " ++ name
  | misusedFunction name => "misuse of aggregate function " ++ name ++ "()"
  | argumentCount function => "wrong number of arguments to function " ++ function ++ "()"
  | orderOutOfRange place columns =>
      toString place ++ ordinalEnding place ++ " ORDER BY term out of range - should be between 1 and "
        ++ toString columns
  | nothingToReturn => "no tables specified"
  | noColumnNamed table column => "table " ++ table ++ " has no column named " ++ column
  | readOnlyTable name => "table " ++ name ++ " may not be modified"
  | tableExists spelling => "table " ++ spelling ++ " already exists"
  | duplicateColumn name => "duplicate column name: " ++ name
  | secondPrimaryKey table => "table \"" ++ table ++ "\" has more than one primary key"
  | misplacedNumbering => "AUTOINCREMENT is only allowed on an INTEGER PRIMARY KEY"
  | valueCount values columns => toString values ++ " values for " ++ toString columns ++ " columns"
  | rowWidth table columns values =>
      "table " ++ table ++ " has " ++ toString columns ++ " columns but " ++ toString values
        ++ " values were supplied"
  | unevenRows => "all VALUES must have the same number of terms"
  | noConflictTarget => "ON CONFLICT clause does not match any PRIMARY KEY or UNIQUE constraint"
  | insideTransaction => "cannot start a transaction within a transaction"
  | outsideTransaction verb => "cannot " ++ verb ++ " - no transaction is active"
  | notUnique column _ => "UNIQUE constraint failed: " ++ column
  | missingValue column => "NOT NULL constraint failed: " ++ column
  | mismatch => "datatype mismatch"
  | full => "database or disk is full"
  | cannotOpen => "unable to open database file"
  | notADatabase => "file is not a database"

/-- A row with the same key is already there. -/
def isUniqueViolation : SqlFault → Bool
  | notUnique .. => true
  | _ => false

/-- The failure that a fault means to a driver. -/
def failure (f : SqlFault) : DriverFailure :=
  let code := toString f.code
  .ofDatabase ("(code: " ++ code ++ ") " ++ f.message) (some code)
    (if f.isUniqueViolation then .uniqueViolation else .other)

end SqlFault

end BoundSql.Embedded
