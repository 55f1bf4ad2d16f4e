import BoundSql.Batch.Chunk
import BoundSql.Statement.Insert
import BoundSql.Upsert

/-!
# Batched inserts

A `BatchInsert` writes many rows of one shape with as few statements as the
ceiling on parameters allows.  The whole batch is checked before the first chunk
is compiled: the table has a name, there are rows, they have columns, all of
them the same ones in the same order, and an upsert policy fits these columns.
-/

namespace BoundSql

/-- What a batch does about rows that are already there. -/
inductive BatchMode where
  /-- It fails. -/
  | insert
  /-- It leaves them alone. -/
  | insertIgnore
  /-- It merges into them. -/
  | upsert (policy : UpsertPolicy)
deriving DecidableEq, Repr, Inhabited

/-- The verb of a batch. -/
def BatchMode.verb : BatchMode → InsertVerb
  | .insertIgnore => .insertIgnore
  | _ => .insert

/-- An insert of many rows. -/
structure BatchInsert where
  table : String
  rows : List Row
  /-- What to do about rows that are already there. -/
  mode : BatchMode := .insert
  /-- The columns on which rows collide. -/
  conflictColumns : List String := []
deriving Repr, Inhabited

namespace BatchInsert

/-- Leaves rows that are there alone. -/
def ignore (b : BatchInsert) : BatchInsert := { b with mode := .insertIgnore }

/-- Merges into rows that are there. -/
def upsert (b : BatchInsert) (policy : UpsertPolicy) : BatchInsert :=
  { b with mode := .upsert policy }

/-- Names the columns on which rows collide. -/
def withConflictColumns (b : BatchInsert) (columns : List String) : BatchInsert :=
  { b with conflictColumns := columns }

/-- The first row that does not have these columns, with its number. -/
def misshapen? (expected : List String) (rows : List Row) : Option (Nat × Row) :=
  (rows.zipIdx.find? fun e => e.1.columns != expected).map fun e => (e.2, e.1)

/-- The columns that the rows share.  Refuses a batch that is not well formed. -/
def columns (b : BatchInsert) : Except Refusal (List String) := do
  if Text.isBlankText b.table then throw .missingTable
  match b.rows with
  | [] => throw (.emptyData .batch)
  | first :: _ =>
      if first.isEmpty then throw (.noColumns b.table)
      match misshapen? first.columns b.rows with
      | some (index, row) => throw (.rowShapeMismatch index first.columns row.columns)
      | none =>
          match b.mode with
          | .upsert policy => policy.validate first.columns
          | _ => pure ()
          pure first.columns

/-- The plan of the batch under a ceiling on parameters. -/
def plan (b : BatchInsert) (maxParams : UInt64) : Except Refusal BatchPlan := do
  let columns ← b.columns
  BatchPlan.make (UInt64.ofNat b.rows.length) (UInt64.ofNat columns.length) maxParams

/-- The text around the values, for rows with these columns. -/
def frame (b : BatchInsert) (d : Dialect) (columns : List String) : ChunkFrame where
  head := Insert.head (b.mode.verb.render d) d b.table columns
  tail := match b.mode with
    | .upsert policy => " " ++ d.renderUpsert b.conflictColumns policy
    | _ => ""

/-- The place before the first chunk of the batch. -/
def compile (b : BatchInsert) (d : Dialect) (maxParams : UInt64) : Except Refusal ChunkCursor := do
  let columns ← b.columns
  let plan ← BatchPlan.make (UInt64.ofNat b.rows.length) (UInt64.ofNat columns.length) maxParams
  pure ⟨b.frame d columns, plan, 0, b.rows⟩

end BatchInsert

end BoundSql
