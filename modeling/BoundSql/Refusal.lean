import BoundSql.Filter.Operator
import BoundSql.Text.Quoted
import BoundSql.Value

/-!
# Refusals

A statement that cannot be compiled is refused for one of the causes below, and it
is not sent.  `Refusal.message` is the text for the user.
-/

namespace BoundSql

/-- What a statement has no data for. -/
inductive Subject where
  | insert
  | update
  | batch
  /-- The columns of the rows of a batch. -/
  | row
deriving DecidableEq, Repr

/-- The word for a subject. -/
def Subject.word : Subject → String
  | insert => "insert"
  | update => "update"
  | batch => "batch"
  | row => "row"

/-- Why a statement cannot be compiled. -/
inductive Refusal where
  /-- The text names no operator. -/
  | unsupportedOperator (text : String)
  /-- A list operator was given a scalar. -/
  | listRequired (column : String) (operator : Operator)
  /-- A scalar operator was given a list. -/
  | scalarRequired (column : String) (operator : Operator)
  /-- A list operator was given no items. -/
  | emptyList (column : String) (operator : Operator)
  /-- A list stands where one placeholder is bound. -/
  | nonScalarParameter (index : Nat) (value : Value)
  /-- The table has a blank name. -/
  | missingTable
  /-- The primary key has a blank name. -/
  | missingPrimaryKey
  /-- The table has no columns. -/
  | noColumns (table : String)
  /-- There is nothing to write. -/
  | emptyData (subject : Subject)
  /-- A row does not have the columns of the first row. -/
  | rowShapeMismatch (index : Nat) (expected found : List String)
  /-- One row needs more parameters than a statement may have. -/
  | rowTooWide (columns maxParams : Nat)
  /-- A merged column is not inserted. -/
  | unknownUpsertColumn (column : String)
  /-- A column is both updated and incremented. -/
  | conflictingUpsertColumn (column : String)
  /-- An upsert merges nothing. -/
  | emptyUpsertPolicy
  /-- The text names no database. -/
  | unknownDialect (name : String)
deriving Repr

namespace Refusal

/-- The text for the user. -/
def message : Refusal → String
  | unsupportedOperator text => "unsupported operator '" ++ text ++ "' in WHERE statement"
  | listRequired column operator =>
      "value for " ++ operator.symbol ++ " operator on column '" ++ column ++ "' must be a list"
  | scalarRequired column operator =>
      "value for " ++ operator.symbol ++ " operator on column '" ++ column ++ "' must be a scalar"
  | emptyList column operator =>
      "empty value list for " ++ operator.symbol ++ " operator on column '" ++ column ++ "'"
  | nonScalarParameter index value =>
      "list value at parameter " ++ toString index ++ " can't be a statement value: " ++ value.inline
  | missingTable => "database table name can't be empty"
  | missingPrimaryKey => "primary key column name can't be empty"
  | noColumns table => "table '" ++ table ++ "' has no columns"
  | emptyData subject => subject.word ++ " data can't be empty"
  | rowShapeMismatch index expected found =>
      "row " ++ toString index ++ " columns " ++ Text.quotedList found
        ++ " do not match first row columns " ++ Text.quotedList expected
  | rowTooWide columns maxParams =>
      "row of " ++ toString columns ++ " columns exceeds the limit of " ++ toString maxParams
        ++ " bound parameters"
  | unknownUpsertColumn column => "upsert column '" ++ column ++ "' is not in the inserted columns"
  | conflictingUpsertColumn column =>
      "upsert column '" ++ column ++ "' can't be both updated and incremented"
  | emptyUpsertPolicy => "upsert needs at least one update or increment column"
  | unknownDialect name => "unsupported database driver '" ++ name ++ "'"

end Refusal

end BoundSql
