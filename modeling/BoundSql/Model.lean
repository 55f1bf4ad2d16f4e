import BoundSql.Batch.Insert
import BoundSql.Session
import BoundSql.Statement.Delete
import BoundSql.Statement.Update

/-!
# Models

A model is a table with a primary key, and perhaps an observer of its changes.
It reads and writes rows through whatever session it is given.

An observer is told of the new row after an insert, and of the old rows after an
update, an increment or a delete.  Old rows have to be read before they are
written, with the condition of the write, and this is done only if there is an
observer.  It is told nothing if no row was affected.

A model never writes without a condition: an update or a delete with an empty
filter does nothing.  The chunks of a batch are sent one after the other, and the
first one that is rejected ends the batch.
-/

namespace BoundSql

/-- A table with a primary key. -/
structure Model where
  table : String
  /-- The column of the primary key. -/
  primaryKey : String := "id"
  /-- Who is told of changes. -/
  observer : Option Observer := none
deriving DecidableEq, Repr

namespace Model

variable {σ : Type}

/-- Refuses a model whose table or primary key has a blank name. -/
def check (m : Model) : Except Refusal Unit :=
  if Text.isBlankText m.table then .error .missingTable
  else if Text.isBlankText m.primaryKey then .error .missingPrimaryKey
  else .ok ()

/-- A description for whoever looks for an error. -/
def describe (m : Model) : String :=
  "Model \x7b table: " ++ Text.quoted m.table ++ ", primary_key: " ++ Text.quoted m.primaryKey
    ++ ", observed: " ++ (if m.observer.isSome then "true" else "false") ++ " \x7d"

/-! ## Reading -/

/-- A query for every column of every row. -/
def select (m : Model) : Select := .ofTable m.table

/-- The filter for the row with the given key. -/
def keyed (m : Model) (id : Value) : Filter := Filter.empty.whereEq m.primaryKey id

/-- The row with the given key. -/
def find (m : Model) (s : Session σ) (id : Value) : Action σ (Option Row) := do
  Action.ofCompiled m.check
  let found ← s.query ((m.select.filtering fun _ => m.keyed id).take 1)
  pure found.firstRow?

/-- The first value of what a query for the filtered rows returns. -/
def valueOf (m : Model) (s : Session σ) (columns : String) (filter : Filter) :
    Action σ (Option Value) := do
  let found ← s.query ((m.select.withColumnsRaw columns).filtering fun _ => filter)
  pure found.value?

/-- The number of rows that the filter selects.  It is zero if the answer is no
number. -/
def count (m : Model) (s : Session σ) (filter : Filter) : Action σ Int64 := do
  let value ← m.valueOf s "COUNT(*)" filter
  pure ((value.bind Value.asInt?).getD 0)

/-- An aggregate of a column over the rows that the filter selects. -/
def aggregate (m : Model) (s : Session σ) (function column : String) (filter : Filter) :
    Action σ (Option Value) := do
  let value ← m.valueOf s (function ++ "(" ++ column ++ ")") filter
  pure (value.filter (!·.isNull))

/-- The largest value of a column. -/
def max (m : Model) (s : Session σ) (column : String) (filter : Filter) :
    Action σ (Option Value) :=
  m.aggregate s "MAX" column filter

/-- The smallest value of a column. -/
def min (m : Model) (s : Session σ) (column : String) (filter : Filter) :
    Action σ (Option Value) :=
  m.aggregate s "MIN" column filter

/-- The sum of a column over the whole table. -/
def sum (m : Model) (s : Session σ) (column : String) : Action σ (Option Value) :=
  m.aggregate s "SUM" column Filter.empty

/-- The columns on which an inserted row collides with one that is there. -/
def conflictColumns (m : Model) (s : Session σ) : Action σ (List String) := do
  match s.dialect.conflictColumnsQuery m.table with
  | none => pure []
  | some statement =>
      let rows ← s.fetchAll statement
      pure (s.dialect.conflictColumns rows m.primaryKey)

/-! ## Reporting -/

/-- Tells the observer of a change. -/
def notify (m : Model) (kind : ChangeKind) (id : Value) (row : Row) : Action σ Unit :=
  match m.observer with
  | none => pure ()
  | some observer =>
      if observer.kind = .channel false then Action.log (.receiverDropped m.table)
      else Action.emit (.reported observer ⟨m.table, kind, id, row⟩)

/-- Tells the observer of an inserted row, which is read back by its key. -/
def notifyInserted (m : Model) (s : Session σ) (kind : ChangeKind) (id : Int64) :
    Action σ Unit := do
  match ← m.find s (.int id) with
  | none => pure ()
  | some row => m.notify kind (.int id) row

/-- Tells the observer of a row that was there before a write. -/
def notifyChanged (m : Model) (kind : ChangeKind) (row : Row) : Action σ Unit :=
  m.notify kind ((row.get? m.primaryKey).getD .null) row

/-! ## Inserting a row -/

/-- Inserts a row and gives the key that was made for it.  If the outcome has
none, it is the most recent one of the connection. -/
def insertOne (m : Model) (s : Session σ) (insert : Insert) (kind : ChangeKind) :
    Action σ (Option Int64) := do
  Action.ofCompiled m.check
  let statement ← Action.ofCompiled (insert.build s.dialect)
  let outcome ← s.execute statement
  if outcome.affected = 0 then pure none
  else
    let recent ← s.lastInsertId
    let id := outcome.insertId.orElse fun _ => recent
    match id with
    | none => pure none
    | some key =>
        if m.observer.isSome then m.notifyInserted s kind key
        pure (some key)

/-- Inserts a row.  A row that is already there may be left alone. -/
def insert (m : Model) (s : Session σ) (row : Row) (ignore : Bool) : Action σ (Option Int64) :=
  let insert : Insert := { table := m.table, row }
  m.insertOne s (if ignore then insert.ignore else insert) .insert

/-- Inserts a row in place of those that it collides with. -/
def replace (m : Model) (s : Session σ) (row : Row) : Action σ (Option Int64) :=
  m.insertOne s ({ table := m.table, row } : Insert).replace .replace

/-- Inserts a row, or updates the one that it collides with. -/
def insertUpdate (m : Model) (s : Session σ) (row update : Row) : Action σ UInt64 := do
  Action.ofCompiled m.check
  let conflict ← m.conflictColumns s
  let insert := ({ table := m.table, row } : Insert).onConflictUpdate conflict update
  let statement ← Action.ofCompiled (insert.build s.dialect)
  let outcome ← s.execute statement
  pure outcome.affected

/-! ## Writing rows that are there -/

/-- The rows that a write is about to change, if anyone wants to know. -/
def preimages (m : Model) (s : Session σ) (filter : Filter) : Action σ (List Row) := do
  if m.observer.isSome then
    let found ← s.query (m.select.filtering fun _ => filter)
    pure found.rows
  else pure []

/-- Sends a write of the rows that the filter selects. -/
def write (m : Model) (s : Session σ) (filter : Filter) (kind : ChangeKind)
    (compiled : Except Refusal Statement) : Action σ UInt64 := do
  let statement ← Action.ofCompiled compiled
  let before ← m.preimages s filter
  let outcome ← s.execute statement
  if 0 < outcome.affected then Action.each (m.notifyChanged kind) before
  pure outcome.affected

/-- Sets columns of the rows that the filter selects. -/
def updateWhere (m : Model) (s : Session σ) (filter : Filter) (row : Row) : Action σ UInt64 := do
  Action.ofCompiled m.check
  if filter.isEmpty then
    Action.log (.skippedUpdate m.table)
    pure 0
  else
    let update : Update := { (({ table := m.table } : Update).setRow row) with filter }
    m.write s filter .update (update.build s.dialect)

/-- Sets columns of the row with the given key. -/
def update (m : Model) (s : Session σ) (id : Value) (row : Row) : Action σ UInt64 :=
  m.updateWhere s (m.keyed id) row

/-- Adds an amount to a column of the row with the given key. -/
def increment (m : Model) (s : Session σ) (id : Value) (column : String) (amount : Int64) :
    Action σ UInt64 := do
  Action.ofCompiled m.check
  let filter := m.keyed id
  let update : Update :=
    { (({ table := m.table } : Update).increment column (.int amount)) with filter }
  m.write s filter .increment (update.build s.dialect)

/-- Deletes the rows that the filter selects. -/
def deleteWhere (m : Model) (s : Session σ) (filter : Filter) : Action σ UInt64 := do
  Action.ofCompiled m.check
  if filter.isEmpty then
    Action.log (.skippedDelete m.table)
    pure 0
  else
    m.write s filter .delete (({ table := m.table, filter } : Delete).build s.dialect)

/-- Deletes the row with the given key. -/
def delete (m : Model) (s : Session σ) (id : Value) : Action σ UInt64 :=
  m.deleteWhere s (m.keyed id)

/-! ## Batches -/

/-- Sends the chunks of a batch, and adds the rows that they affect to those that were
affected before. -/
def writeChunks (m : Model) (s : Session σ) (affected : UInt64) : List Chunk → Action σ UInt64
  | [] => pure affected
  | chunk :: rest => do
      let outcome ← s.execute chunk.statement
      Action.log (.chunkWritten m.table chunk.start chunk.stop outcome.affected)
      let sum ← Action.add affected outcome.affected
      m.writeChunks s sum rest

/-- Compiles a batch and sends it. -/
def runBatch (m : Model) (s : Session σ) (batch : BatchInsert) : Action σ UInt64 := do
  Action.ofCompiled m.check
  let cursor ← Action.ofCompiled (batch.compile s.dialect s.maxParams)
  let affected ← m.writeChunks s 0 cursor.chunks
  Action.log (.batchFinished m.table cursor.plan.totalRows cursor.plan.chunkCount affected)
  pure affected

/-- Inserts rows.  Those that are already there may be left alone. -/
def insertBatch (m : Model) (s : Session σ) (rows : List Row) (ignore : Bool) :
    Action σ UInt64 :=
  let batch : BatchInsert := { table := m.table, rows }
  m.runBatch s (if ignore then batch.ignore else batch)

/-- Inserts rows and merges those that collide into the ones that are there.  The
batch is checked before the columns of the collision are asked for. -/
def insertUpdateBatch (m : Model) (s : Session σ) (rows : List Row) (policy : UpsertPolicy) :
    Action σ UInt64 := do
  let batch := ({ table := m.table, rows } : BatchInsert).upsert policy
  let _ ← Action.ofCompiled batch.columns
  let conflict ← m.conflictColumns s
  m.runBatch s (batch.withConflictColumns conflict)

end Model

end BoundSql
