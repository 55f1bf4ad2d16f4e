import BoundSql.Dialect
import BoundSql.Embedded.Parser
import BoundSql.Embedded.Relation
import BoundSql.Embedded.Table

/-!
# Databases

A database is a list of tables.  A statement is run on it as a whole: if there is
a fault, the database is the one from before the statement.

Three names are special.  `sqlite_master` has no rows.  `sqlite_sequence` has, for
each table whose numbers are used once only, the largest number that was ever
tried there.  The question for the unique indexes of a table, which a session
asks before it merges rows, is answered without looking into it.
-/

namespace BoundSql.Embedded

/-- A database. -/
structure Database where
  /-- The tables, in the order in which they were created. -/
  tables : List Table := []
  /-- The number of the row that was inserted last. -/
  lastNumber : Int64 := 0
  /-- The tables as they were before the transaction, within one. -/
  saved : Option (List Table) := none
deriving Repr

/-- What a statement has done. -/
structure Answer where
  /-- The number of rows that have changed. -/
  changes : Nat := 0
  rows : List NamedRow := []
deriving Repr

namespace Database

/-! ## Tables -/

/-- The name is one of a table of this database. -/
def isOwn (t : TableName) : Bool := t.database.all (Text.sameLetters "main")

/-- A table by its name. -/
def find? (db : Database) (t : TableName) : Option Table :=
  if isOwn t then db.tables.find? fun x => Text.sameLetters x.name t.name else none

/-- Puts a table in the place of the one with its name. -/
def put (db : Database) (t : Table) : Database :=
  { db with tables := db.tables.map fun x => if x.name = t.name then t else x }

/-- The name of the table of all tables. -/
def isCatalogue (t : TableName) : Bool :=
  isOwn t && ["sqlite_master", "sqlite_schema"].any (Text.sameLetters t.name)

/-- The name of the table of largest numbers. -/
def isSequence (db : Database) (t : TableName) : Bool :=
  isOwn t && Text.sameLetters t.name "sqlite_sequence" && db.tables.any (·.usesOnce)

/-- A table that is to be changed. -/
def target (db : Database) (t : TableName) : Except SqlFault Table :=
  match db.find? t with
  | some found => .ok found
  | none =>
      if isCatalogue t then .error (.readOnlyTable "sqlite_master")
      else .error (.noSuchTable t.path)

/-! ## Relations -/

/-- The column for the number of a row. -/
def numberColumn (name : String) : ScopeColumn := ⟨[name], "rowid", some .integer, false, true⟩

/-- The columns of a table under a name, behind them the number. -/
def scopeOf (name : String) (t : Table) : Scope :=
  t.columns.map (fun c => ⟨[name], c.name, some c.affinity, false, false⟩) ++ [numberColumn name]

/-- The cells of a row, behind them its number. -/
def cellsOf (row : StoredRow) : List Cell := row.cells ++ [.int row.number]

/-- A table as a relation. -/
def tableRelation (name : String) (t : Table) : Relation := ⟨scopeOf name t, t.rows.map cellsOf⟩

/-- The columns of the table of all tables. -/
def catalogue : Table :=
  { name := "sqlite_master"
    columns := [⟨"type", .text, false⟩, ⟨"name", .text, false⟩, ⟨"tbl_name", .text, false⟩,
      ⟨"rootpage", .integer, false⟩, ⟨"sql", .text, false⟩] }

/-- The table of largest numbers. -/
def sequence (db : Database) : Table :=
  { name := "sqlite_sequence", columns := [⟨"name", .any, false⟩, ⟨"seq", .any, false⟩]
    rows := ((db.tables.filter fun t => t.usesOnce && t.largest != 0).zipIdx).map fun (t, i) =>
      ⟨Int64.ofNat (i + 1), [.text t.name, .int t.largest]⟩ }

/-- The relation of a table by its name. -/
def relation (db : Database) (name : TableName) (label : Option String) :
    Except SqlFault Relation :=
  let shown (t : Table) : Relation := tableRelation (label.getD t.name) t
  match db.find? name with
  | some t => .ok (shown t)
  | none =>
      if isCatalogue name then .ok (shown catalogue)
      else if db.isSequence name then .ok (shown db.sequence)
      else .error (.noSuchTable name.path)

/-- The relation of a source. -/
def source (db : Database) (params : List Cell) : Option Source → Except SqlFault Relation
  | none => .ok .unit
  | some (.table name label) => db.relation name label
  | some (.row items label) => do
      let rows ← Relation.unit.answer params { items }
      .ok (.ofNamed label (rows.headD []))

/-! ## Assignments -/

/-- The place of a column that takes an expression, with the term. -/
def assignment (place : Term.Place) (t : Table) (a : String × Expr) :
    Except SqlFault (Nat × Term) :=
  match t.place? a.1 with
  | none => .error (.noSuchColumn a.1)
  | some i => (Term.ofExpr place a.2).map fun term => (i, term)

/-- The cells of a row behind some assignments, which all see the same row. -/
def assign (terms : List (Nat × Term)) (row cells : List Cell) : List Cell :=
  terms.foldl (fun done (i, term) => done.set i (term.eval [] row)) cells

/-! ## Inserts -/

/-- The columns of the row that was to be inserted. -/
def excludedScope (t : Table) : Scope :=
  (scopeOf "excluded" t).map fun c => { c with qualifiedOnly := true }

/-- The place of a column on which rows conflict, if the expression is one. -/
def targetPlace (t : Table) : Expr → Except SqlFault (Option Nat)
  | .column none name =>
      match t.place? name with
      | some i => .ok (some i)
      | none => .error (.noSuchColumn name)
  | .quoted name => .ok (t.place? name)
  | _ => .ok none

/-- The identity for which rows are merged. -/
def mergeIdentity (t : Table) (target : List Expr) : Except SqlFault Table.Identity := do
  let places ← target.mapM (targetPlace t)
  match places with
  | [some i] =>
      match t.identityAt? i with
      | some identity => .ok identity
      | none => .error .noConflictTarget
  | _ => .error .noConflictTarget

/-- What becomes of a row that is there already. -/
def merging (params : List Cell) (t : Table) (m : Merge) : Except SqlFault Table.Merging := do
  let identity ← mergeIdentity t m.target
  let place : Term.Place := { scope := scopeOf t.name t ++ excludedScope t, params }
  let terms ← m.assignments.mapM (assignment place t)
  .ok ⟨identity, fun new old => assign terms (cellsOf old ++ cellsOf new) old.cells⟩

/-- The places of the columns that an insert names. -/
def insertPlaces (t : Table) : Option (List String) → Except SqlFault (List Nat)
  | none => .ok (List.range t.columns.length)
  | some names => names.mapM fun name =>
      match t.place? name with
      | some i => .ok i
      | none => .error (.noColumnNamed t.name name)

/-- The rows of an insert fit its columns. -/
def checkRows (t : Table) (named : Bool) (width : Nat) : List (List Expr) → Except SqlFault Unit
  | [] => .ok ()
  | first :: rest => do
      if rest.any (·.length != first.length) then .error .unevenRows
      if first.length != width then
        .error (if named then .valueCount first.length width
          else .rowWidth t.name width first.length)

/-- The first of the cells at a place, among cells with their places. -/
def cellAt (placed : List (Nat × Cell)) (i : Nat) : Cell := (placed.lookup i).getD .null

/-- The cells of a new row, which are nothing where none is given. -/
def newCells (t : Table) (params : List Cell) (places : List Nat) (row : List Expr) :
    Except SqlFault (List Cell) := do
  let terms ← row.mapM (Term.ofExpr { scope := [], params })
  let placed := places.zip (terms.map (·.eval [] []))
  .ok ((List.range t.columns.length).map (cellAt placed))

/-- The state of an insert: the table, the number of changes and the last number. -/
abbrev Progress := Table × Nat × Int64

/-- Inserts a row. -/
def insertRow (resolution : Resolution) (merging : Option Table.Merging) (p : Progress)
    (cells : List Cell) : Except SqlFault Progress :=
  let (t, changes, last) := p
  (t.insert resolution merging cells).map fun
    | (.skipped, t) => (t, changes, last)
    | (.inserted number, t) => (t, changes + 1, number)
    | (.merged, t) => (t, changes + 1, last)

/-- Sets the largest number of a table from a row of the table of those. -/
def setLargest (db : Database) : List Cell → Database
  | [.text name, .int n] =>
      { db with tables := db.tables.map fun t => if t.name = name then { t with largest := n } else t }
  | _ => db

/-- Inserts rows into a table. -/
def insertInto (db : Database) (params : List Cell) (resolution : Resolution) (t : Table)
    (columns : Option (List String)) (rows : List (List Expr)) (merge : Option Merge) :
    Except SqlFault (Answer × Database) := do
  let places ← insertPlaces t columns
  checkRows t columns.isSome places.length rows
  let cells ← rows.mapM (newCells t params places)
  if t.name = db.sequence.name then
    .ok ({ changes := rows.length }, cells.foldl setLargest db)
  else
    let merging ← merge.mapM (merging params t)
    let (t, changes, last) ← cells.foldlM (insertRow resolution merging) (t, 0, db.lastNumber)
    .ok ({ changes }, { db.put t with lastNumber := last })

/-! ## Statements -/

/-- The rows of a table for which a condition holds. -/
def matching (params : List Cell) (t : Table) (condition : Option Expr) :
    Except SqlFault (List StoredRow) := do
  let term ← condition.mapM (Term.ofExpr { scope := scopeOf t.name t, params })
  .ok (t.rows.filter fun row => term.all fun c => (c.eval [] (cellsOf row)).holds)

/-- Creates a table, unless it is there and need not be created. -/
def createTable (db : Database) (name : TableName) (spelling : String) (ifNotExists : Bool)
    (columns : List ColumnDef) : Except SqlFault (Answer × Database) :=
  if (db.find? name).isSome then
    if ifNotExists then .ok ({}, db) else .error (.tableExists spelling)
  else do
    let t ← Table.create name.name columns
    .ok ({}, { db with tables := db.tables ++ [t] })

/-- Runs a statement. -/
def run (params : List Cell) (db : Database) : Command → Except SqlFault (Answer × Database)
  | .create name spelling ifNotExists columns =>
      db.createTable name spelling ifNotExists columns
  | .insert resolution name columns rows merge => do
      let t ← if db.isSequence name then .ok db.sequence else db.target name
      db.insertInto params resolution t columns rows merge
  | .update name assignments condition => do
      let t ← db.target name
      let place : Term.Place := { scope := scopeOf t.name t, params }
      let terms ← assignments.mapM (assignment place t)
      let rows ← matching params t condition
      let changed ← rows.foldlM (fun t row => t.update row (assign terms (cellsOf row) row.cells)) t
      .ok ({ changes := rows.length }, db.put changed)
  | .delete name condition => do
      let t ← db.target name
      let rows ← matching params t condition
      let rest := rows.foldl (fun t row => t.discard row.number) t
      .ok ({ changes := rows.length }, db.put rest)
  | .select query => do
      let r ← db.source params query.source
      let rows ← r.answer params query
      .ok ({ rows }, db)
  | .start =>
      match db.saved with
      | some _ => .error .insideTransaction
      | none => .ok ({}, { db with saved := some db.tables })
  | .commit =>
      match db.saved with
      | none => .error (.outsideTransaction "commit")
      | some _ => .ok ({}, { db with saved := none })
  | .rollback =>
      match db.saved with
      | none => .error (.outsideTransaction "rollback")
      | some tables => .ok ({}, { db with tables, saved := none })

/-! ## Unique indexes -/

/-- The rows that describe the unique indexes of a table, the last one first. -/
def indexRows (t : Table) : List NamedRow :=
  (t.keys.zipIdx.map fun (k, i) =>
    [("index_name", Cell.text ("sqlite_autoindex_" ++ t.name ++ "_" ++ toString (i + 1))),
     ("origin", .text (if k.isPrimary then "pk" else "u")),
     ("column_name", .text (((t.columns[k.place]?).map (·.name)).getD ""))]).reverse

/-- The answer to the question for the unique indexes of a table. -/
def describeIndexes (db : Database) : List Cell → Answer
  | .text name :: _ => { rows := ((db.find? { name }).map indexRows).getD [] }
  | _ => {}

/-- The text is the question for the unique indexes of a table. -/
def asksForIndexes (sql : String) : Bool :=
  (Dialect.sqlite.conflictColumnsQuery "").any (·.sql == sql)

/-! ## Texts -/

/-- Runs statements up to the first fault, and adds up what they have done.  The
database is the one behind the last statement without a fault.  `ending` is what
is wrong behind the statements. -/
def runAll (params : List Cell) (ending : Option SqlFault) : List Command → Answer → Database →
    Except SqlFault Answer × Database
  | [], answer, db => (ending.elim (.ok answer) .error, db)
  | c :: cs, answer, db =>
      match db.run params c with
      | .error fault => (.error fault, db)
      | .ok (more, db) =>
          runAll params ending cs ⟨answer.changes + more.changes, answer.rows ++ more.rows⟩ db

/-- Runs the statements of a text. -/
def runText (sql : String) (params : List Cell) (db : Database) : Except SqlFault Answer × Database :=
  if asksForIndexes sql then (.ok (db.describeIndexes params), db)
  else
    let (found, ending) := commands sql
    runAll params ending found {} db

end Database

end BoundSql.Embedded
