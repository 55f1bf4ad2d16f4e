import BoundSql.Dialect

/-!
# Tables to be created

A `TableSchema` has a name that is not blank and at least one column.  It is
made from a `TableDraft`, which has neither assurance.  Two columns of one name,
or two primary keys, are left for the database to refuse.
-/

namespace BoundSql

/-- The parts of a table definition, before they are checked. -/
structure TableDraft where
  name : String
  columns : List ColumnSpec := []
  /-- A table that is already there is left alone. -/
  ifNotExists : Bool := false
  /-- The storage engine. -/
  engine : Option String := none
  collation : Option String := none
deriving DecidableEq, Repr, Inhabited

/-- A table definition. -/
structure TableSchema where
  /-- The parts. -/
  draft : TableDraft
  /-- The name is not blank. -/
  named : Text.isBlankText draft.name = false
  /-- There are columns. -/
  nonempty : draft.columns ≠ []
deriving DecidableEq, Repr

namespace TableDraft

/-- One more column. -/
def column (t : TableDraft) (c : ColumnSpec) : TableDraft := { t with columns := t.columns ++ [c] }

/-- Leaves a table that is already there alone. -/
def keepExisting (t : TableDraft) : TableDraft := { t with ifNotExists := true }

/-- Chooses the storage engine. -/
def withEngine (t : TableDraft) (engine : String) : TableDraft := { t with engine := some engine }

/-- Chooses the collation. -/
def withCollation (t : TableDraft) (collation : String) : TableDraft :=
  { t with collation := some collation }

/-- The table definition of the parts.  The name is looked at before the
columns. -/
def build (t : TableDraft) : Except Refusal TableSchema :=
  if named : Text.isBlankText t.name = false then
    if nonempty : t.columns ≠ [] then .ok ⟨t, named, nonempty⟩
    else .error (.noColumns t.name)
  else .error .missingTable

end TableDraft

/-! ## Compilation -/

/-- The definition of a column. -/
def ColumnSpec.compile (c : ColumnSpec) (d : Dialect) : String :=
  let type := if c.autoIncrement then d.autoIncrementType c.type else c.type
  String.intercalate " " ([d.quote c.name, type] ++ d.columnConstraints c)

namespace TableSchema

/-- The name of the table. -/
def name (t : TableSchema) : String := t.draft.name

/-- The columns, in order. -/
def columns (t : TableSchema) : List ColumnSpec := t.draft.columns

/-- The options as the dialect writes them. -/
def options (t : TableSchema) (d : Dialect) : List String :=
  d.tableOptions t.draft.engine t.draft.collation

/-- There are options, and the dialect writes none of them. -/
def hasIgnoredOptions (t : TableSchema) (d : Dialect) : Bool :=
  (t.draft.engine.isSome || t.draft.collation.isSome) && (t.options d).isEmpty

/-- The statement that creates the table. -/
def compile (t : TableSchema) (d : Dialect) : String :=
  "CREATE TABLE " ++ (if t.draft.ifNotExists then "IF NOT EXISTS " else "") ++ d.quote t.name
    ++ " (" ++ String.intercalate ", " (t.columns.map (·.compile d)) ++ ")"
    ++ String.join ((t.options d).map (" " ++ ·))

end TableSchema

/-! ## Tests -/

/-- The statement of a draft for SQLite, if it is a definition. -/
def TableDraft.sqliteExample (t : TableDraft) : Option String :=
  t.build.toOption.map (·.compile .sqlite)

example : (TableDraft.sqliteExample
      ⟨"t", [⟨"id", "int", true, true, false, false⟩, ⟨"a", "text", false, false, true, true⟩],
        false, some "x", none⟩)
    = some "CREATE TABLE \"t\" (\"id\" INTEGER PRIMARY KEY AUTOINCREMENT, \"a\" text NOT NULL UNIQUE)" := by
  decide +kernel

end BoundSql
