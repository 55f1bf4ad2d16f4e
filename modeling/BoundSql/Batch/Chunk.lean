import BoundSql.Batch.Plan
import BoundSql.Fragment
import BoundSql.Row

/-!
# Chunks of a batch

The statements of a batch differ only in the rows they carry.  A `ChunkFrame` is
what they share, the text before and after the values.  A `ChunkCursor` stands
between two chunks and gives them out one after the other.
-/

namespace BoundSql

/-- The text around the values of a chunk. -/
structure ChunkFrame where
  /-- The text before the values. -/
  head : String
  /-- The text after the values. -/
  tail : String
deriving DecidableEq, Repr, Inhabited

/-- The fragment of a chunk: a tuple for each row. -/
def ChunkFrame.fragment (frame : ChunkFrame) (rows : List Row) : Fragment :=
  .text frame.head ++ .joined ", " (rows.map fun r => .tuple r.values) ++ .text frame.tail

/-- One statement of a batch. -/
structure Chunk where
  statement : Statement
  /-- The number of its first row in the batch. -/
  start : UInt64
  /-- The number of the row after its last. -/
  stop : UInt64
deriving Repr, Inhabited

/-- A place between two chunks of a batch. -/
structure ChunkCursor where
  /-- The text around the values. -/
  frame : ChunkFrame
  /-- How the rows are split. -/
  plan : BatchPlan
  /-- The number of rows given out. -/
  position : UInt64
  /-- The rows still to be given out. -/
  pending : List Row
deriving Repr, Inhabited

namespace ChunkCursor

/-- The next chunk and the place after it. -/
def next? (c : ChunkCursor) : Option (Chunk × ChunkCursor) :=
  if c.plan.totalRows ≤ c.position then none
  else
    let stop := min (c.position + c.plan.rowsPerChunk) c.plan.totalRows
    let (rows, rest) := c.pending.splitAt (stop - c.position).toNat
    some (⟨(c.frame.fragment rows).statement, c.position, stop⟩,
      { c with position := stop, pending := rest })

/-- The number of chunks still to come. -/
def remaining (c : ChunkCursor) : UInt64 :=
  divCeil (c.plan.totalRows - c.position) c.plan.rowsPerChunk

/-- The least and the greatest number of chunks that may still come. -/
def sizeHint (c : ChunkCursor) : UInt64 × Option UInt64 := (c.remaining, some c.remaining)

/-- At most `n` of the chunks still to come, each with the number of chunks that
remained before it. -/
def taken : Nat → ChunkCursor → List (UInt64 × Chunk)
  | 0, _ => []
  | n + 1, c =>
      match c.next? with
      | none => []
      | some (chunk, rest) => (c.remaining, chunk) :: taken n rest

/-- The chunks still to come.  There are no more of them than pending rows. -/
def chunks (c : ChunkCursor) : List Chunk := (taken c.pending.length c).map Prod.snd

/-- The place after `n` more chunks. -/
def advance : Nat → ChunkCursor → ChunkCursor
  | 0, c => c
  | n + 1, c =>
      match c.next? with
      | none => c
      | some (_, rest) => advance n rest

end ChunkCursor

end BoundSql
