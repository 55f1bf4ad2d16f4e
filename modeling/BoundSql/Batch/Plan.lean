import BoundSql.Refusal

/-!
# Plans of a batch

A batch of rows is written in chunks, because a statement may have only so many
parameters.  A plan says how many rows go into one chunk: as many as the ceiling
allows.  All counts are 64-bit words.

The row after a full chunk is a sum, and it may be beyond the last word even if the
chunk is cut short at the last row.  Then there is no range for the chunk.  Whoever
asks for the ranges one after the other gets those in front of it, and the program
stops.
-/

namespace BoundSql

namespace Checked

/-- A natural number as a word, if it is one. -/
def word (n : Nat) : Option UInt64 := if n < UInt64.size then some (UInt64.ofNat n) else none

/-- The sum, if it is a word. -/
def add (a b : UInt64) : Option UInt64 := word (a.toNat + b.toNat)

end Checked

/-- How a number of rows is split into chunks. -/
structure BatchPlan where
  /-- The number of rows. -/
  totalRows : UInt64
  /-- The number of values in each row. -/
  columns : UInt64
  /-- The number of rows in every chunk but the last. -/
  rowsPerChunk : UInt64
deriving DecidableEq, Repr, Inhabited

/-- The quotient rounded up. -/
def divCeil (a b : UInt64) : UInt64 := if 0 < a % b then a / b + 1 else a / b

namespace BatchPlan

/-- The plan with the largest chunks that the ceiling allows. -/
def make (totalRows columns maxParams : UInt64) : Except Refusal BatchPlan :=
  if totalRows = 0 then .error (.emptyData .batch)
  else if columns = 0 then .error (.emptyData .row)
  else if maxParams / columns = 0 then .error (.rowTooWide columns.toNat maxParams.toNat)
  else .ok ⟨totalRows, columns, maxParams / columns⟩

/-- The number of chunks. -/
def chunkCount (p : BatchPlan) : UInt64 := divCeil p.totalRows p.rowsPerChunk

/-- The rows of the chunk with the given number: the first row and the row after
the last.  There are none if the sum is no word. -/
def range? (p : BatchPlan) (k : Nat) : Option (UInt64 × UInt64) := do
  let start := UInt64.ofNat k * p.rowsPerChunk
  let stop ← Checked.add start p.rowsPerChunk
  pure (start, min stop p.totalRows)

/-- The rows of `n` chunks from number `k` on, up to the first one without a range. -/
def rangesFrom (p : BatchPlan) (k : Nat) : Nat → List (UInt64 × UInt64)
  | 0 => []
  | n + 1 =>
      match p.range? k with
      | none => []
      | some r => r :: p.rangesFrom (k + 1) n

/-- The rows of the first `n` chunks, as they are given out before the program stops. -/
def firstRanges (p : BatchPlan) (n : Nat) : List (UInt64 × UInt64) :=
  p.rangesFrom 0 (min n p.chunkCount.toNat)

/-- The rows of every chunk, in order, if the program does not stop. -/
def ranges? (p : BatchPlan) : Option (List (UInt64 × UInt64)) :=
  (List.range p.chunkCount.toNat).mapM p.range?

/-! ## Tests -/

example : (make 10 3 9).toOption.bind ranges? = some [(0, 3), (3, 6), (6, 9), (9, 10)] := by
  decide +kernel

end BatchPlan

end BoundSql
