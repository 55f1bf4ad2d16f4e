import BoundSql.Proofs.Batch.Insert
import Mathlib.Data.Nat.Basic
import Mathlib.Order.Basic

/-!
# Chunks still to come

Whoever asks a cursor for its chunks may make room for them first, so the number of chunks still
to come has to be exact wherever the cursor is (`ChunkCursor.Counts`).  At place `k` of a plan it is
the number of chunks of the plan without the first `k` of them (`ChunkCursor.At.toNat_remaining`).
A step takes one chunk off, and where none is left the cursor stays (`BatchInsert.sizeHint_exact`).
-/

namespace BoundSql

namespace ChunkCursor

/-- The bounds on the number of chunks still to come, by checked operations. -/
def checkedSizeHint (c : ChunkCursor) : Option (UInt64 × Option UInt64) := do
  let count ← c.checkedRemaining
  pure (count, some count)

/-- Both bounds on the number of chunks still to come are this number, they are computed without
wraps, and it is the number of chunks that the cursor gives out. -/
structure Counts (c : ChunkCursor) (count : UInt64) : Prop where
  sizeHint : c.sizeHint = (count, some count)
  checked : c.checkedSizeHint = some c.sizeHint
  yields : ∃ chunks, c.Yields chunks ∧ chunks.length = count.toNat

variable {rows : List Row} {k : Nat} {c rest : ChunkCursor} {chunk : Chunk}

/-! ## Places that follow each other -/

theorem advance_of_next?_eq_none (h : c.next? = none) (n : Nat) : c.advance n = c := by
  cases n with
  | zero => rfl
  | succ n => rw [advance, h]

theorem advance_add (c : ChunkCursor) (m n : Nat) :
    c.advance (m + n) = (c.advance m).advance n := by
  induction m generalizing c with
  | zero => rw [Nat.zero_add, advance]
  | succ m ih =>
      rw [Nat.succ_add, advance, advance]
      cases hnext : c.next? with
      | none => exact (advance_of_next?_eq_none hnext n).symm
      | some e => exact ih e.2

theorem advance_succ {n : Nat} (h : (c.advance n).next? = some (chunk, rest)) :
    c.advance (n + 1) = rest := by
  rw [advance_add, advance, h]
  rfl

/-! ## The number of chunks -/

/-- The chunks from number `k` on are still to come. -/
theorem At.toNat_remaining (h : At rows k c) :
    c.remaining.toNat = c.plan.chunkCount.toNat - k := by
  have hleft : (c.plan.totalRows - c.position).toNat
      = c.plan.totalRows.toNat - min (k * c.plan.rowsPerChunk.toNat) c.plan.totalRows.toNat := by
    rw [UInt64.toNat_sub_of_le _ _ (UInt64.le_iff_toNat_le.mpr h.position_le), h.position, h.total]
  refine eq_of_forall_lt_iff fun j => ?_
  have hchunk := BatchPlan.lt_chunkCount h.inMemory (j + k)
  rw [Nat.add_mul] at hchunk
  rw [remaining, lt_toNat_divCeil h.inMemory.step_pos, hleft]
  omega

theorem At.exists_yields (h : At rows k c) :
    ∃ chunks, c.Yields chunks ∧ chunks.length = c.plan.chunkCount.toNat - k := by
  by_cases hk : k ≤ c.plan.chunkCount.toNat
  · exact ⟨_, h.yields (Nat.add_sub_cancel' hk), by rw [List.length_map, List.length_range']⟩
  · exact ⟨[], .done (h.next?_eq_none (by omega)), by rw [List.length_nil]; omega⟩

theorem At.counts (h : At rows k c) : c.Counts c.remaining where
  sizeHint := rfl
  checked := by
    rw [checkedSizeHint, h.checkedRemaining_eq]
    rfl
  yields := by
    rw [h.toNat_remaining]
    exact h.exists_yields

/-- A chunk that is given out is one less to come. -/
theorem At.counts_rest (h : At rows k c) (hnext : c.next? = some (chunk, rest)) :
    rest.Counts rest.remaining ∧ rest.remaining.toNat + 1 = c.remaining.toNat := by
  have hk : k < c.plan.chunkCount.toNat := by
    by_contra hk
    cases (h.next?_eq_none hk).symm.trans hnext
  obtain ⟨_, rfl⟩ := Prod.mk.inj (Option.some.inj ((h.next?_eq_some hk).symm.trans hnext))
  have hfewer : _ = c.plan.chunkCount.toNat - (k + 1) := (h.succ hk).toNat_remaining
  refine ⟨(h.succ hk).counts, ?_⟩
  rw [hfewer, h.toNat_remaining]
  omega

/-- Where no chunk is left to come, the cursor gives out none. -/
theorem At.next?_of_remaining (h : At rows k c) (hzero : c.remaining = 0) : c.next? = none := by
  refine h.next?_eq_none fun hk => ?_
  have hcount := h.toNat_remaining
  rw [hzero] at hcount
  have hnone : (0 : UInt64).toNat = 0 := rfl
  omega

end ChunkCursor

namespace BatchInsert

/-- The number of chunks still to come is exact at every place of a compiled batch, also behind the
last chunk.  Before the first chunk it is the number of chunks of the plan, a chunk that is given
out is one less to come, and where it is zero the cursor gives out no chunk and stays.  The position
is never beyond the last row. -/
theorem sizeHint_exact (b : BatchInsert) (d : Dialect) (maxParams : UInt64) (c : ChunkCursor)
    (hmem : RowsInMemory b.rows) (h : b.compile d maxParams = .ok c) :
    c.Counts c.plan.chunkCount
      ∧ ∀ n, (c.advance n).position.toNat ≤ b.rows.length
        ∧ ∃ count, (c.advance n).Counts count
          ∧ (∀ chunk rest, (c.advance n).next? = some (chunk, rest) →
              rest = c.advance (n + 1)
                ∧ ∃ fewer, rest.Counts fewer ∧ fewer.toNat + 1 = count.toNat)
          ∧ (count = 0 → ∀ m, (c.advance (n + m)).next? = none
              ∧ c.advance (n + m) = c.advance n) := by
  have hat := compile_at hmem h
  constructor
  · have hcount : c.remaining = c.plan.chunkCount := UInt64.toNat_inj.mp hat.toNat_remaining
    exact hcount ▸ hat.counts
  · intro n
    obtain ⟨k, hk⟩ := hat.advance (n := n)
    refine ⟨hk.total ▸ hk.position_le, _, hk.counts, fun chunk rest hnext => ?_, fun hzero m => ?_⟩
    · obtain ⟨hrest, hfewer⟩ := hk.counts_rest hnext
      exact ⟨(ChunkCursor.advance_succ hnext).symm, _, hrest, hfewer⟩
    · have hnone := hk.next?_of_remaining hzero
      have hstays : c.advance (n + m) = c.advance n := by
        rw [ChunkCursor.advance_add, ChunkCursor.advance_of_next?_eq_none hnone]
      exact ⟨hstays ▸ hnone, hstays⟩

/-- Five rows of two columns. -/
def fiveRows : BatchInsert where
  table := "t"
  rows := [1, 2, 3, 4, 5].map fun n => .ofPairs [("a", .int n), ("b", .null)]

/-- With four parameters a statement, there are two full chunks and a short one. -/
theorem sizeHint_exact_fiveRows :
    RowsInMemory fiveRows.rows ∧ ∃ c, fiveRows.compile .sqlite 4 = .ok c
      ∧ c.Counts 3 ∧ (c.advance 2).Counts 1 ∧ (c.advance 3).Counts 0
      ∧ (c.advance 7).next? = none := by
  have hmem : RowsInMemory fiveRows.rows := ⟨by decide, by decide +kernel⟩
  have hcompile : fiveRows.compile .sqlite 4
      = .ok ⟨fiveRows.frame .sqlite ["a", "b"], ⟨5, 2, 2⟩, 0, fiveRows.rows⟩ := by rfl
  obtain ⟨hstart, hplaces⟩ := sizeHint_exact fiveRows .sqlite 4 _ hmem hcompile
  obtain ⟨_, last, hlast, _, _⟩ := hplaces 2
  obtain ⟨_, zero, hzero, _, hdone⟩ := hplaces 3
  have hone : last = 1 := (Prod.mk.inj hlast.sizeHint).1.symm.trans (by decide +kernel)
  have hnone : zero = 0 := (Prod.mk.inj hzero.sizeHint).1.symm.trans (by decide +kernel)
  subst hone hnone
  exact ⟨hmem, _, hcompile, hstart, hlast, hzero, (hdone rfl 4).1⟩

end BatchInsert

end BoundSql
