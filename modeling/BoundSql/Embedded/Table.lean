import BoundSql.Embedded.Command
import BoundSql.Embedded.Fault

/-!
# Tables

A table is a list of rows, each under a *number* that no other row has, in the
order of the numbers.  A column that is declared as `INTEGER PRIMARY KEY` holds
the number of its row.  A new row without a number takes the one behind the
largest.  If the numbers are to be used once only, it takes the one behind the
largest that was ever tried.

A *key* is a column in which no two rows agree, unless nothing is there.  The
number of a row is checked first, then the keys, the last one first.
-/

namespace BoundSql.Embedded

/-- A column of a table. -/
structure Column where
  name : String
  /-- The kind of cell that it prefers. -/
  affinity : Affinity
  /-- There is always something in it. -/
  notNull : Bool
deriving DecidableEq, Repr

/-- A column in which no two rows agree. -/
structure Key where
  isPrimary : Bool
  place : Nat
deriving DecidableEq, Repr

/-- A row of a table. -/
structure StoredRow where
  number : Int64
  /-- A cell for each column. -/
  cells : List Cell
deriving DecidableEq, Repr

/-- A table. -/
structure Table where
  name : String
  columns : List Column
  /-- The place of the column that holds the number. -/
  numberPlace : Option Nat := none
  /-- No number is used twice. -/
  usesOnce : Bool := false
  /-- The largest number that was ever tried, if none is used twice. -/
  largest : Int64 := 0
  /-- The keys, in the order in which they were defined. -/
  keys : List Key := []
  /-- The rows, in the order of their numbers. -/
  rows : List StoredRow := []
deriving DecidableEq, Repr

namespace Table

/-! ## Definition -/

/-- Adds a key, unless there is one on the same column.  That one becomes the
primary one if the new one is. -/
def addKey (key : Key) (t : Table) : Table :=
  if t.keys.any (·.place == key.place) then
    { t with keys := t.keys.map fun k =>
        if k.place = key.place then { k with isPrimary := k.isPrimary || key.isPrimary } else k }
  else { t with keys := t.keys ++ [key] }

/-- The table has a primary key. -/
def hasPrimaryKey (t : Table) : Bool := t.numberPlace.isSome || t.keys.any (·.isPrimary)

/-- Makes the last column the primary key. -/
def addPrimaryKey (c : ColumnDef) (t : Table) : Except SqlFault Table :=
  let place := t.columns.length - 1
  if t.hasPrimaryKey then .error (.secondPrimaryKey t.name)
  else if Text.sameLetters c.type "integer" then
    .ok { t with numberPlace := some place, usesOnce := c.autoincrement }
  else if c.autoincrement then .error .misplacedNumbering
  else .ok (t.addKey ⟨true, place⟩)

/-- Adds a column. -/
def addColumn (t : Table) (c : ColumnDef) : Except SqlFault Table := do
  if t.columns.any fun old => Text.sameLetters old.name c.name then
    .error (.duplicateColumn c.name)
  let t := { t with columns := t.columns ++ [⟨c.name, .ofType c.type, c.notNull⟩] }
  let t ← if c.primaryKey then t.addPrimaryKey c else .ok t
  .ok (if c.unique then t.addKey ⟨false, t.columns.length - 1⟩ else t)

/-- A table without rows. -/
def create (name : String) (columns : List ColumnDef) : Except SqlFault Table :=
  columns.foldlM addColumn { name, columns := [] }

/-- The place of a column. -/
def place? (t : Table) (column : String) : Option Nat :=
  t.columns.findIdx? fun c => Text.sameLetters c.name column

/-! ## Agreement of rows -/

/-- What no two rows have in common. -/
inductive Identity where
  | number
  | key (k : Key)
deriving DecidableEq, Repr

/-- What no two rows have in common, in the order in which it is checked. -/
def identities (t : Table) : List Identity := .number :: t.keys.reverse.map .key

/-- Two cells are there and are equal. -/
def agree (a b : Cell) : Bool := a != .null && b != .null && (Cell.order a b).isEq

/-- Two rows have the same identity. -/
def collide (a b : StoredRow) : Identity → Bool
  | .number => a.number = b.number
  | .key k => agree ((a.cells[k.place]?).getD .null) ((b.cells[k.place]?).getD .null)

/-- The row with the same identity as another one. -/
def twin? (t : Table) (row : StoredRow) (i : Identity) : Option StoredRow :=
  t.rows.find? fun old => collide old row i

/-- The first identity that a row shares with one of the table, with that one. -/
def clash? (t : Table) (row : StoredRow) : Option (Identity × StoredRow) :=
  t.identities.findSome? fun i => (t.twin? row i).map fun old => (i, old)

/-- The name of a column behind the name of the table. -/
def columnPath (t : Table) (place : Nat) : String :=
  t.name ++ "." ++ ((t.columns[place]?).map (·.name)).getD "rowid"

/-- The fault of a row that shares an identity with another one. -/
def clashFault (t : Table) : Identity → SqlFault
  | .number => .notUnique (t.columnPath (t.numberPlace.getD t.columns.length)) true
  | .key k => .notUnique (t.columnPath k.place) k.isPrimary

/-- The identity that lies in a column, if there is one. -/
def identityAt? (t : Table) (place : Nat) : Option Identity :=
  t.identities.find? fun
    | .number => t.numberPlace == some place
    | .key k => k.place == place

/-! ## Rows -/

/-- Adds a row at the place of its number. -/
def store (t : Table) (row : StoredRow) : Table :=
  let (below, above) := t.rows.span (·.number < row.number)
  { t with rows := below ++ row :: above }

/-- Takes the row of a number away. -/
def discard (t : Table) (number : Int64) : Table :=
  { t with rows := t.rows.filter (·.number != number) }

/-- Converts cells to the affinities of their columns. -/
def fit (t : Table) (cells : List Cell) : List Cell :=
  List.zipWith (fun (c : Column) cell => cell.convert c.affinity) t.columns cells

/-- The number for a row that has none. -/
def freshNumber (t : Table) : Except SqlFault Int64 :=
  let behind := match t.rows.getLast? with
    | some row => row.number.toInt + 1
    | none => 1
  let next := if t.usesOnce && behind ≤ t.largest.toInt then t.largest.toInt + 1 else behind
  match toWord? next with
  | some n => .ok n
  | none => .error .full

/-- The number in the cell that holds it, if there is one. -/
def givenNumber? (t : Table) (cells : List Cell) : Except SqlFault (Option Int64) :=
  match (t.numberPlace.bind (cells[·]?)).getD .null with
  | .null => .ok none
  | c =>
      match c.convert .integer with
      | .int n => .ok (some n)
      | _ => .error .mismatch

/-- The row of a number and some cells. -/
def rowOf (t : Table) (number : Int64) (cells : List Cell) : StoredRow :=
  ⟨number, match t.numberPlace with
    | some p => (t.fit cells).set p (.int number)
    | none => t.fit cells⟩

/-- The first column that misses something in a row. -/
def missing? (t : Table) (row : StoredRow) : Option Nat :=
  (List.range t.columns.length).find? fun i =>
    (t.columns[i]?).any (·.notNull) && (row.cells[i]?).getD .null == .null

/-- Nothing is missing in a row. -/
def checkMissing (t : Table) (row : StoredRow) : Except SqlFault Unit :=
  match t.missing? row with
  | some place => .error (.missingValue (t.columnPath place))
  | none => .ok ()

/-- The table remembers that a number was tried. -/
def note (t : Table) (number : Int64) : Table :=
  if t.usesOnce && t.largest < number then { t with largest := number } else t

/-- Gives a row other cells. -/
def update (t : Table) (old : StoredRow) (cells : List Cell) : Except SqlFault Table := do
  let number ← match t.numberPlace with
    | none => .ok old.number
    | some _ => do
        match ← t.givenNumber? cells with
        | some n => .ok n
        | none => .error .mismatch
  let row := t.rowOf number cells
  t.checkMissing row
  let others := t.discard old.number
  match others.clash? row with
  | some (identity, _) => .error (t.clashFault identity)
  | none => .ok (others.store row)

/-! ## Inserts -/

/-- What has become of a row. -/
inductive Fate where
  /-- It was left out. -/
  | skipped
  /-- It is in the table. -/
  | inserted (number : Int64)
  /-- A row that was there has changed. -/
  | merged
deriving DecidableEq, Repr

/-- What becomes of a row that is there when a new one shares an identity with it. -/
structure Merging where
  identity : Identity
  /-- The cells of the row that is there, behind those of the new one. -/
  revise : (new old : StoredRow) → List Cell

/-- The row with which a new one is merged. -/
def mergeInto? (t : Table) (merging : Option Merging) (row : StoredRow) :
    Option (StoredRow × List Cell) :=
  merging.bind fun m => (t.twin? row m.identity).map fun old => (old, m.revise row old)

/-- Takes the rows away that share an identity with a new one. -/
def discardTwins (t : Table) (row : StoredRow) : Table :=
  { t with rows := t.rows.filter fun old => !t.identities.any (collide old row) }

/-- Inserts a row. -/
def insert (resolution : Resolution) (merging : Option Merging) (cells : List Cell) (t : Table) :
    Except SqlFault (Fate × Table) := do
  let number ← match ← t.givenNumber? cells with
    | some n => .ok n
    | none => t.freshNumber
  let row := t.rowOf number cells
  let t := t.note number
  if resolution = .ignore && (t.missing? row).isSome then .ok (.skipped, t)
  else
    t.checkMissing row
    match t.mergeInto? merging row with
    | some (old, revised) => do
        let t ← t.update old revised
        .ok (.merged, t)
    | none =>
        match t.clash? row, resolution with
        | none, _ => .ok (.inserted number, t.store row)
        | some _, .ignore => .ok (.skipped, t)
        | some _, .replace => .ok (.inserted number, (t.discardTwins row).store row)
        | some (identity, _), .abort => .error (t.clashFault identity)

/-! ## Tests -/

/-- Rows that are counted by name. -/
def sampleTable : Table :=
  { name := "t", columns := [⟨"id", .integer, false⟩, ⟨"k", .text, false⟩], numberPlace := some 0
    keys := [⟨false, 1⟩], rows := [⟨3, [.int 3, .text "a"]⟩] }

/-- The rows of the sample table behind an insert, with the number of the new one. -/
def sampleRows? (resolution : Resolution) (cells : List Cell) : Option (Fate × List Int64) :=
  ((sampleTable.insert resolution none cells).map fun (fate, t) =>
    (fate, t.rows.map (·.number))).toOption

/-- The fault of an insert into the sample table. -/
def sampleFault? (cells : List Cell) : Option SqlFault :=
  match sampleTable.insert .abort none cells with
  | .error fault => some fault
  | .ok _ => none

example : sampleRows? .abort [.null, .int 7] = some (.inserted 4, [3, 4])
    ∧ sampleRows? .ignore [.int 1, .text "a"] = some (.skipped, [3])
    ∧ sampleRows? .replace [.int 1, .text "a"] = some (.inserted 1, [1]) := by decide +kernel
example : sampleFault? [.text "3", .text "a"] = some (.notUnique "t.id" true)
    ∧ sampleFault? [.int 1, .text "a"] = some (.notUnique "t.k" false)
    ∧ sampleFault? [.text "x", .null] = some .mismatch := by decide +kernel

end Table

end BoundSql.Embedded
