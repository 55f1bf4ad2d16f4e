import BoundSql.Fragment
import BoundSql.Row
import BoundSql.Schema.Column
import BoundSql.Upsert

/-!
# Dialects

The two databases differ in a handful of places: the quote around identifiers,
the number of parameters a statement may have, numbered columns, table options,
skipping rows that are already there, and merging into them.

A merge into an existing row needs to know on which columns the two rows
collide.  MySQL takes every unique key.  SQLite wants the columns of one index
and can be asked for its indexes first.  `Dialect.conflictColumns` picks them
from the answer.
-/

namespace BoundSql

/-- A database that statements are compiled for. -/
inductive Dialect where
  | mysql
  | sqlite
deriving DecidableEq, Repr, Inhabited

namespace Dialect

/-! ## Names and limits -/

/-- The name of a dialect. -/
def name : Dialect → String
  | mysql => "mysql"
  | sqlite => "sqlite"

/-- The dialect of a driver, by its name in any case and between blanks. -/
def ofDriverName (driver : String) : Except Refusal Dialect :=
  match Text.lower (Text.trim driver) with
  | "mysql" => .ok mysql
  | "mariadb" => .ok mysql
  | "sqlite" => .ok sqlite
  | "sqlite3" => .ok sqlite
  | _ => .error (.unknownDialect driver)

/-- The number of parameters that one statement may have. -/
def maxBindParams : Dialect → Nat
  | mysql => 65535
  | sqlite => 32766

/-- The quote around identifiers. -/
def identifierQuote : Dialect → String
  | mysql => "`"
  | sqlite => "\""

/-- An identifier between quotes.  The identifier is trusted: a quote inside it
stays as it is. -/
def quote (d : Dialect) (identifier : String) : String :=
  d.identifierQuote ++ identifier ++ d.identifierQuote

/-- Identifiers between quotes, with commas. -/
def quoteAll (d : Dialect) (identifiers : List String) : String :=
  String.intercalate ", " (identifiers.map d.quote)

/-! ## Definitions of tables -/

/-- The type of a numbered column. -/
def autoIncrementType (d : Dialect) (declared : String) : String :=
  match d with
  | mysql => declared
  | sqlite => "INTEGER"

/-- The word that makes a column numbered. -/
def autoIncrementKeyword : Dialect → String
  | mysql => "AUTO_INCREMENT"
  | sqlite => "AUTOINCREMENT"

/-- The spelling of a constraint. -/
def keyword (d : Dialect) : Constraint → String
  | .primaryKey => "PRIMARY KEY"
  | .notNull => "NOT NULL"
  | .unique => "UNIQUE"
  | .autoIncrement => d.autoIncrementKeyword

/-- The constraints of a column.  In SQLite a numbered primary key is always
present and unique, and the keyword must follow `PRIMARY KEY` directly. -/
def constraints (d : Dialect) (c : ColumnSpec) : List Constraint :=
  match d with
  | mysql => c.constraints
  | sqlite =>
      if c.autoIncrement && c.primaryKey then [.primaryKey, .autoIncrement] else c.constraints

/-- The constraints of a column as text. -/
def columnConstraints (d : Dialect) (c : ColumnSpec) : List String :=
  (d.constraints c).map d.keyword

/-- The options of a table.  SQLite has none. -/
def tableOptions (d : Dialect) (engine collation : Option String) : List String :=
  match d with
  | mysql => (engine.map ("ENGINE=" ++ ·)).toList ++ (collation.map ("COLLATE " ++ ·)).toList
  | sqlite => []

/-! ## Writing over existing rows -/

/-- The verb that skips rows which are already there. -/
def insertIgnore : Dialect → String
  | mysql => "INSERT IGNORE"
  | sqlite => "INSERT OR IGNORE"

/-- The inserted value of a column, where a row is merged into an existing one. -/
def insertedValue (d : Dialect) (column : String) : String :=
  match d with
  | mysql => "VALUES(" ++ d.quote column ++ ")"
  | sqlite => "excluded." ++ d.quote column

/-- The clause that merges into existing rows, up to its assignments. -/
def upsertHead (d : Dialect) (conflict : List String) : String :=
  match d with
  | mysql => "ON DUPLICATE KEY UPDATE "
  | sqlite =>
      if conflict.isEmpty then "ON CONFLICT DO UPDATE SET "
      else "ON CONFLICT(" ++ d.quoteAll conflict ++ ") DO UPDATE SET "

/-- The clause that merges into existing rows. -/
def upsertClause (d : Dialect) (conflict assignments : List String) : String :=
  d.upsertHead conflict ++ String.intercalate ", " assignments

/-- The column takes the inserted value. -/
def updateAssignment (d : Dialect) (column : String) : String :=
  d.quote column ++ " = " ++ d.insertedValue column

/-- The inserted value is added to the column. -/
def incrementAssignment (d : Dialect) (column : String) : String :=
  d.quote column ++ " = " ++ d.quote column ++ " + " ++ d.insertedValue column

/-- The clause that merges as a policy says. -/
def renderUpsert (d : Dialect) (conflict : List String) (policy : UpsertPolicy) : String :=
  d.upsertClause conflict
    (policy.updated.map d.updateAssignment ++ policy.incremented.map d.incrementAssignment)

/-! ## The columns of a conflict -/

/-- The query for the unique indexes of a table, one row per indexed column, if
the database needs to be asked. -/
def conflictColumnsQuery (d : Dialect) (table : String) : Option Statement :=
  match d with
  | mysql => none
  | sqlite => some
      ⟨"SELECT il.name AS index_name, il.origin AS origin, ii.name AS column_name " ++
        "FROM pragma_index_list(?) AS il, pragma_index_info(il.name) AS ii " ++
        "WHERE il.\"unique\" = 1 AND il.partial = 0 " ++
        "ORDER BY il.seq, ii.seqno", [.text table]⟩

/-- One column of a unique index. -/
structure IndexColumn where
  index : String
  /-- What made the index, `pk` for a primary key. -/
  origin : Option String
  column : String
deriving DecidableEq, Repr

/-- The text of a column of a row. -/
def textOf? (r : Row) (column : String) : Option String := (r.get? column).bind Value.asText?

/-- Reads a row of the answer.  Rows without the name of an index or a column
are passed over. -/
def IndexColumn.ofRow? (r : Row) : Option IndexColumn :=
  match textOf? r "index_name", textOf? r "column_name" with
  | some index, some column => some ⟨index, textOf? r "origin", column⟩
  | _, _ => none

/-- The columns on which rows collide: those of the first index that is not the
primary key, or else the primary key alone. -/
def conflictColumns (d : Dialect) (indexRows : List Row) (primaryKey : String) : List String :=
  match d with
  | mysql => []
  | sqlite =>
      match (indexRows.filterMap IndexColumn.ofRow?).dropWhile (·.origin == some "pk") with
      | [] => [primaryKey]
      | first :: rest => first.column :: (rest.takeWhile (·.index == first.index)).map (·.column)

/-! ## Tests -/

example : mysql.renderUpsert ["k"] ⟨["a"], ["b"]⟩
    = "ON DUPLICATE KEY UPDATE `a` = VALUES(`a`), `b` = `b` + VALUES(`b`)" := by decide +kernel
example : sqlite.renderUpsert ["k"] ⟨["a"], ["b"]⟩
    = "ON CONFLICT(\"k\") DO UPDATE SET \"a\" = excluded.\"a\", \"b\" = \"b\" + excluded.\"b\"" := by
  decide +kernel

end Dialect

end BoundSql
