import BoundSql.Json.Record
import BoundSql.Schema.Table

/-!
# Table definitions in JSON

A table definition is read as a record whose columns are records in turn.  Only
names are required, and the columns of the table.  The parts are checked as soon
as the record is complete, even if the text goes on after it.
-/

namespace BoundSql

open Json (Reader RecordField RecordShape Mismatch)

/-! ## Columns -/

/-- What has been read of a column. -/
structure ColumnDraft where
  name : Option String := none
  type : Option String := none
  /-- Missing values are numbered. -/
  autoIncrement : Option Bool := none
  primaryKey : Option Bool := none
  /-- There is always a value. -/
  notNull : Option Bool := none
  /-- No value is there twice. -/
  unique : Option Bool := none
deriving DecidableEq, Repr, Inhabited

/-- The fields of a column. -/
def ColumnDraft.fields : List (RecordField ColumnDraft) :=
  [{ name := "name", isSet := (·.name.isSome),
     read := fun _ c => do pure { c with name := some (← Json.readString) } },
   { name := "type", isSet := (·.type.isSome),
     read := fun _ c => do pure { c with type := some (← Json.readString) } },
   { name := "auto_increment", isSet := (·.autoIncrement.isSome),
     read := fun _ c => do pure { c with autoIncrement := some (← Json.readBool) } },
   { name := "primary_key", isSet := (·.primaryKey.isSome),
     read := fun _ c => do pure { c with primaryKey := some (← Json.readBool) } },
   { name := "not_null", isSet := (·.notNull.isSome),
     read := fun _ c => do pure { c with notNull := some (← Json.readBool) } },
   { name := "unique", isSet := (·.unique.isSome),
     read := fun _ c => do pure { c with unique := some (← Json.readBool) } }]

/-- The column of a draft that has a name. -/
def ColumnDraft.complete (missing : Nat → String → Mismatch) (c : ColumnDraft) :
    Except Mismatch ColumnSpec :=
  match c.name with
  | none => .error (missing 0 "name")
  | some name => .ok
      { name, type := c.type.getD "int", autoIncrement := c.autoIncrement.getD false,
        primaryKey := c.primaryKey.getD false, notNull := c.notNull.getD false,
        unique := c.unique.getD false }

/-- Columns as records. -/
def ColumnSpec.shape : RecordShape ColumnDraft ColumnSpec :=
  { expected := "struct ColumnSpec", fields := ColumnDraft.fields, start := {},
    complete := ColumnDraft.complete }

/-! ## Tables -/

/-- What has been read of a table. -/
structure TableReading where
  name : Option String := none
  columns : Option (List ColumnSpec) := none
  /-- A table that is already there is left alone. -/
  ifNotExists : Option Bool := none
  /-- The storage engine, or its explicit absence. -/
  engine : Option (Option String) := none
  /-- The collation, or its explicit absence. -/
  collation : Option (Option String) := none
deriving DecidableEq, Repr, Inhabited

/-- The fields of a table. -/
def TableReading.fields : List (RecordField TableReading) :=
  [{ name := "name", isSet := (·.name.isSome),
     read := fun _ t => do pure { t with name := some (← Json.readString) } },
   { name := "columns", isSet := (·.columns.isSome),
     read := fun budget t => do
       pure { t with columns := some (← Json.readArray budget (ColumnSpec.shape.read budget)) } },
   { name := "if_not_exists", isSet := (·.ifNotExists.isSome),
     read := fun _ t => do pure { t with ifNotExists := some (← Json.readBool) } },
   { name := "engine", isSet := (·.engine.isSome),
     read := fun _ t => do pure { t with engine := some (← Json.readNullable Json.readString) } },
   { name := "collation", isSet := (·.collation.isSome),
     read := fun _ t => do pure { t with collation := some (← Json.readNullable Json.readString) } }]

/-- The parts of a table whose name and columns have been read. -/
def TableReading.complete (missing : Nat → String → Mismatch) (t : TableReading) :
    Except Mismatch TableDraft :=
  match t.name, t.columns with
  | none, _ => .error (missing 0 "name")
  | some _, none => .error (missing 1 "columns")
  | some name, some columns => .ok
      { name, columns, ifNotExists := t.ifNotExists.getD false,
        engine := t.engine.getD none, collation := t.collation.getD none }

/-- The parts of tables as records. -/
def TableDraft.shape : RecordShape TableReading TableDraft :=
  { expected := "struct TableSchemaDef", fields := TableReading.fields, start := {},
    complete := TableReading.complete }

/-- Reads a table definition. -/
def TableSchema.read (budget : Nat) : Reader TableSchema := do
  match (← TableDraft.shape.read budget).build with
  | .ok schema => pure schema
  | .error refusal => Json.fail (.refused refusal)

/-- Reads a whole text as a table definition. -/
def TableSchema.ofJson (s : String) : Except Json.Fault TableSchema :=
  Json.readText TableSchema.read s

end BoundSql
