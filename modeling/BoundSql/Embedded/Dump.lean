import BoundSql.Embedded.Database

/-!
# Dumps

A database is kept in a file as the statements that make it.  Each table is
created and filled with its rows, and told the largest number it has used.
`Database.ofDump` runs the statements of a file.
-/

namespace BoundSql.Embedded

/-- A cell as it is spelled in a statement. -/
def Cell.literal : Cell → String
  | .null => "NULL"
  | .int n => toString n.toInt
  | .real x => if x.isFinite then Json.floatText x else if x.isNegative then "-9e999" else "9e999"
  | .text s => Value.textLiteral s
  | .blob bytes => Value.blobLiteral bytes

/-- A type with the affinity. -/
def Affinity.typeName : Affinity → String
  | integer => " INT"
  | real => " REAL"
  | numeric => " NUMERIC"
  | text => " TEXT"
  | any => ""

namespace Table

/-- A name between quotes. -/
def quoted (name : String) : String := Dialect.sqlite.quote name

/-- The definition of a column at a place. -/
def columnText (t : Table) (c : Column) (place : Nat) : String :=
  let type :=
    if t.numberPlace = some place then
      " INTEGER PRIMARY KEY" ++ (if t.usesOnce then " AUTOINCREMENT" else "")
    else c.affinity.typeName
  let key := match t.keys.find? (·.place == place) with
    | some k => if k.isPrimary then " PRIMARY KEY" else " UNIQUE"
    | none => ""
  quoted c.name ++ type ++ (if c.notNull then " NOT NULL" else "") ++ key

/-- The statement that creates the table. -/
def creationText (t : Table) : String :=
  "CREATE TABLE " ++ quoted t.name ++ " ("
    ++ String.intercalate ", " (t.columns.zipIdx.map fun (c, i) => t.columnText c i) ++ ");\n"

/-- The statement that inserts a row. -/
def insertText (name : String) (cells : List Cell) : String :=
  "INSERT INTO " ++ quoted name ++ " VALUES ("
    ++ String.intercalate ", " (cells.map Cell.literal) ++ ");\n"

/-- The statements that make the table. -/
def dump (t : Table) : String :=
  t.creationText ++ String.join (t.rows.map fun row => insertText t.name row.cells)

end Table

namespace Database

/-- The statements that make the database. -/
def dump (db : Database) : String :=
  String.join (db.tables.map Table.dump)
    ++ String.join (db.sequence.rows.map fun row => Table.insertText "sqlite_sequence" row.cells)

/-- The database that statements make, if they are nothing but that. -/
def ofDump (text : String) : Except SqlFault Database :=
  match ({} : Database).runText text [] with
  | (.ok _, db) => .ok db
  | (.error _, _) => .error .notADatabase

/-! ## Tests -/

example : Table.sampleTable.dump
    = "CREATE TABLE \"t\" (\"id\" INTEGER PRIMARY KEY, \"k\" TEXT UNIQUE);\n" ++
      "INSERT INTO \"t\" VALUES (3, 'a');\n" := by decide +kernel
example : ((ofDump "CREATE TABLE t (a);").map fun db => db.tables.length).toOption = some 1 := by
  decide +kernel

end Database

end BoundSql.Embedded
