import BoundSql.Batch.Plan
import BoundSql.Proofs.Refusal

/-!
# Word arithmetic of plans

A plan counts in words, and a word that grows too large wraps around.  To say that
this never happens, every operation on words has a *checked* twin, like the sum that
a range is made with.  It computes with natural numbers and has no result if the exact
one is not a word.  A function on words is free of wraps where its checked twin has a
result, and then both agree.

The number of chunks is known by `lt_toNat_divCeil`: a chunk number counts exactly
if the first row of that chunk is there.  The *span* of a chunk is its range as if
every sum were a word.  It is the range if the one sum is (`BatchPlan.range?_eq_some`).
The spans of a plan are read off as natural numbers (`BatchPlan.toNat_span_fst`,
`BatchPlan.toNat_span_snd`), and they *tile* the rows (`BatchPlan.tiles_spans`): they
are not empty and each begins where the one before it ends.  What is cut out of a list
along a tiling gives back the list (`Tiles.flatMap_slice`).
-/

namespace BoundSql

/-! ## Words -/

/-- As many numbers as a signed word has that are not negative, `2 ^ 63`. -/
def signedSize : Nat := 0x8000000000000000

theorem two_mul_signedSize : 2 * signedSize = UInt64.size := rfl

theorem toNat_add_of_lt {a b : UInt64} (h : a.toNat + b.toNat < UInt64.size) :
    (a + b).toNat = a.toNat + b.toNat :=
  (UInt64.toNat_add a b).trans (Nat.mod_eq_of_lt h)

theorem toNat_mul_of_lt {a b : UInt64} (h : a.toNat * b.toNat < UInt64.size) :
    (a * b).toNat = a.toNat * b.toNat :=
  (UInt64.toNat_mul a b).trans (Nat.mod_eq_of_lt h)

theorem toNat_min (a b : UInt64) : (min a b).toNat = min a.toNat b.toNat := by
  show (if a ≤ b then a else b).toNat = _
  by_cases h : a ≤ b
  · have h' : a.toNat ≤ b.toNat := UInt64.le_iff_toNat_le.mp h
    rw [if_pos h, Nat.min_eq_left h']
  · have h' : ¬ a.toNat ≤ b.toNat := fun hn => h (UInt64.le_iff_toNat_le.mpr hn)
    rw [if_neg h, Nat.min_eq_right (by omega)]

/-- A word is positive if and only if it is not the word zero. -/
theorem toNat_pos {w : UInt64} : 0 < w.toNat ↔ w ≠ 0 := by
  rw [Nat.pos_iff_ne_zero, ne_eq, ne_eq, ← UInt64.toNat_inj]
  rfl

/-! ## Checked operations -/

namespace Checked

/-- The difference, if it is not below zero. -/
def sub (a b : UInt64) : Option UInt64 :=
  if b.toNat ≤ a.toNat then word (a.toNat - b.toNat) else none

/-- The quotient, if there is one. -/
def div (a b : UInt64) : Option UInt64 :=
  if b.toNat = 0 then none else word (a.toNat / b.toNat)

/-- The quotient rounded up. -/
def divCeil (a b : UInt64) : Option UInt64 := do
  let quotient ← div a b
  if 0 < a.toNat % b.toNat then add quotient 1 else some quotient

theorem word_eq {n : Nat} {w : UInt64} (h : w.toNat = n) : word n = some w := by
  subst h
  rw [word, if_pos w.toNat_lt_size, UInt64.ofNat_toNat]

theorem add_eq {a b : UInt64} (h : a.toNat + b.toNat < UInt64.size) : add a b = some (a + b) :=
  word_eq (toNat_add_of_lt h)

theorem add_eq_none {a b : UInt64} (h : ¬ a.toNat + b.toNat < UInt64.size) : add a b = none :=
  if_neg h

theorem sub_eq {a b : UInt64} (h : b.toNat ≤ a.toNat) : sub a b = some (a - b) := by
  rw [sub, if_pos h]
  exact word_eq (UInt64.toNat_sub_of_le a b (UInt64.le_iff_toNat_le.mpr h))

theorem div_eq {a b : UInt64} (h : 0 < b.toNat) : div a b = some (a / b) := by
  rw [div, if_neg (by omega)]
  exact word_eq (UInt64.toNat_div a b)

end Checked

/-! ## Rounding up -/

/-- There is a remainder only if the divisor is at least two, and then the quotient
is small. -/
theorem toNat_div_add_one_lt {a b : UInt64} (hm : 0 < a.toNat % b.toNat) :
    (a / b).toNat + 1 < UInt64.size := by
  have ha : a.toNat < UInt64.size := a.toNat_lt_size
  have hsize : 4 ≤ UInt64.size := by decide
  rw [UInt64.toNat_div]
  cases hb : b.toNat with
  | zero =>
      rw [Nat.div_zero]
      omega
  | succ m =>
      cases m with
      | zero =>
          rw [hb, Nat.mod_one] at hm
          omega
      | succ m =>
          have hq : a.toNat / (m + 1 + 1) ≤ a.toNat / 2 :=
            Nat.div_le_div_left (by omega) (by omega)
          omega

theorem zero_lt_mod {a b : UInt64} : 0 < a % b ↔ 0 < a.toNat % b.toNat := by
  rw [UInt64.lt_iff_toNat_lt, UInt64.toNat_mod]
  rfl

/-- Rounding up never wraps. -/
theorem Checked.divCeil_eq {a b : UInt64} (h : 0 < b.toNat) :
    Checked.divCeil a b = some (BoundSql.divCeil a b) := by
  rw [Checked.divCeil, BoundSql.divCeil, Checked.div_eq h]
  by_cases hm : 0 < a.toNat % b.toNat
  · simp only [Option.bind_eq_bind, Option.bind_some, if_pos hm, if_pos (zero_lt_mod.mpr hm)]
    exact Checked.add_eq (toNat_div_add_one_lt hm)
  · simp only [Option.bind_eq_bind, Option.bind_some, if_neg hm, if_neg (mt zero_lt_mod.mp hm)]

/-- The quotient rounded up counts the multiples of the divisor below the dividend. -/
theorem lt_toNat_divCeil {a b : UInt64} (h : 0 < b.toNat) (k : Nat) :
    k < (divCeil a b).toNat ↔ k * b.toNat < a.toNat := by
  have hdiv : b.toNat * (a.toNat / b.toNat) + a.toNat % b.toNat = a.toNat :=
    Nat.div_add_mod a.toNat b.toNat
  by_cases hm : 0 < a.toNat % b.toNat
  · have hq : (a / b + 1).toNat = a.toNat / b.toNat + 1 := by
      rw [toNat_add_of_lt (toNat_div_add_one_lt hm), UInt64.toNat_div]
      rfl
    rw [divCeil, if_pos (zero_lt_mod.mpr hm), hq, Nat.lt_succ_iff, Nat.le_div_iff_mul_le h]
    have hne : k * b.toNat ≠ a.toNat := by
      intro he
      rw [← he, Nat.mul_mod_left] at hm
      omega
    omega
  · have hz : a.toNat = a.toNat / b.toNat * b.toNat := by
      rw [Nat.mul_comm]
      omega
    rw [divCeil, if_neg (mt zero_lt_mod.mp hm), UInt64.toNat_div]
    conv => rhs; rw [hz]
    exact (Nat.mul_lt_mul_right h).symm

/-! ## Tilings -/

/-- The ranges are not empty, begin at `a`, end at `b`, and each begins where the one
before it ends. -/
def Tiles : Nat → Nat → List (UInt64 × UInt64) → Prop
  | a, b, [] => a = b
  | a, b, r :: rs => r.1.toNat = a ∧ a < r.2.toNat ∧ Tiles r.2.toNat b rs

theorem Tiles.le : ∀ {rs : List (UInt64 × UInt64)} {a b : Nat}, Tiles a b rs → a ≤ b
  | [], _, _, h => Nat.le_of_eq h
  | _ :: _, _, _, ⟨_, hlt, hrest⟩ => Nat.le_trans (Nat.le_of_lt hlt) hrest.le

/-- A tiling has no more ranges than members to cover. -/
theorem Tiles.length_le : ∀ {rs : List (UInt64 × UInt64)} {a b : Nat},
    Tiles a b rs → a + rs.length ≤ b
  | [], _, _, h => Nat.le_of_eq h
  | r :: rs, a, b, ⟨_, hlt, hrest⟩ => by
      have ih := hrest.length_le
      rw [List.length_cons]
      omega

/-- No range of a tiling is empty, and none goes beyond the end. -/
theorem Tiles.bounds_of_mem : ∀ {rs : List (UInt64 × UInt64)} {a b : Nat} {r : UInt64 × UInt64},
    Tiles a b rs → r ∈ rs → r.1.toNat < r.2.toNat ∧ r.2.toNat ≤ b
  | _ :: _, _, _, r, ⟨hstart, hlt, hrest⟩, hr => by
      cases hr with
      | head => exact ⟨by rwa [hstart], hrest.le⟩
      | tail _ hr => exact hrest.bounds_of_mem hr

/-- The members of a list in a range. -/
def slice {α : Type} (xs : List α) (r : UInt64 × UInt64) : List α :=
  xs.extract r.1.toNat r.2.toNat

theorem mem_of_mem_slice {α : Type} {xs : List α} {r : UInt64 × UInt64} {x : α}
    (h : x ∈ slice xs r) : x ∈ xs := by
  rw [slice, List.extract_eq_take_drop] at h
  exact List.mem_of_mem_drop (List.mem_of_mem_take h)

theorem length_slice {α : Type} {xs : List α} {r : UInt64 × UInt64}
    (h : r.2.toNat ≤ xs.length) : (slice xs r).length = r.2.toNat - r.1.toNat := by
  rw [slice, List.extract_eq_take_drop, List.length_take, List.length_drop]
  exact Nat.min_eq_left (Nat.sub_le_sub_right h _)

/-- What is cut out of a list along a tiling gives back what the tiling covers. -/
theorem Tiles.flatMap_slice {α : Type} (xs : List α) :
    ∀ {rs : List (UInt64 × UInt64)} {a b : Nat}, Tiles a b rs →
      rs.flatMap (slice xs) = xs.extract a b
  | [], a, b, h => by
      have hab : a = b := h
      rw [hab, List.flatMap_nil, List.extract_eq_take_drop, Nat.sub_self, List.take_zero]
  | r :: rs, a, b, ⟨hstart, hlt, hrest⟩ => by
      have hle : r.2.toNat ≤ b := hrest.le
      have hsum : b - a = r.2.toNat - a + (b - r.2.toNat) := by omega
      have hdrop : a + (r.2.toNat - a) = r.2.toNat := by omega
      rw [List.flatMap_cons, Tiles.flatMap_slice xs hrest, slice, hstart]
      simp only [List.extract_eq_take_drop]
      rw [hsum, List.take_add, List.drop_drop, hdrop]

/-! ## The ranges of a plan -/

namespace BatchPlan

/-- A plan for rows that are in memory. -/
structure InMemory (p : BatchPlan) : Prop where
  /-- There are rows in a chunk. -/
  step_pos : 0 < p.rowsPerChunk.toNat
  /-- A signed word can count the rows. -/
  few : p.totalRows.toNat < signedSize

/-- The rows of a chunk, as if the sum behind its end were always a word. -/
def span (p : BatchPlan) (k : Nat) : UInt64 × UInt64 :=
  let start := UInt64.ofNat k * p.rowsPerChunk
  (start, min (start + p.rowsPerChunk) p.totalRows)

variable {p : BatchPlan}

theorem lt_chunkCount (h : p.InMemory) (k : Nat) :
    k < p.chunkCount.toNat ↔ k * p.rowsPerChunk.toNat < p.totalRows.toNat :=
  lt_toNat_divCeil h.step_pos k

/-- The row after a full chunk is a word.  The first chunk ends with the number of
its rows, and behind it the chunks have no more rows than came before. -/
theorem start_add_lt (h : p.InMemory) {k : Nat}
    (hk : k * p.rowsPerChunk.toNat < p.totalRows.toNat) :
    k * p.rowsPerChunk.toNat + p.rowsPerChunk.toNat < UInt64.size := by
  have hfew := h.few
  have hstep : p.rowsPerChunk.toNat < UInt64.size := p.rowsPerChunk.toNat_lt_size
  have hsize := two_mul_signedSize
  cases k with
  | zero => omega
  | succ k =>
      have hle : p.rowsPerChunk.toNat ≤ (k + 1) * p.rowsPerChunk.toNat :=
        Nat.le_mul_of_pos_left _ (Nat.succ_pos k)
      omega

/-- The row after a full chunk is a word if the end of the plan is. -/
theorem start_add_lt_of_end_lt {k : Nat}
    (hend : p.chunkCount.toNat * p.rowsPerChunk.toNat < UInt64.size)
    (hk : k < p.chunkCount.toNat) :
    k * p.rowsPerChunk.toNat + p.rowsPerChunk.toNat < UInt64.size := by
  rw [← Nat.add_one_mul]
  exact Nat.lt_of_le_of_lt (Nat.mul_le_mul_right _ hk) hend

/-- No plan for rows in memory has an end beyond the last word. -/
theorem InMemory.end_lt (h : p.InMemory) :
    p.chunkCount.toNat * p.rowsPerChunk.toNat < UInt64.size := by
  cases hcount : p.chunkCount.toNat with
  | zero =>
      rw [Nat.zero_mul]
      decide
  | succ k =>
      have hk : k * p.rowsPerChunk.toNat < p.totalRows.toNat := by
        rw [← lt_chunkCount h, hcount]
        exact Nat.lt_succ_self k
      rw [Nat.succ_mul]
      exact start_add_lt h hk

section

variable {k : Nat} (hstep : 0 < p.rowsPerChunk.toNat)
  (hk : k * p.rowsPerChunk.toNat < p.totalRows.toNat)

include hstep hk

theorem toNat_ofNat_chunk : (UInt64.ofNat k).toNat = k := by
  have hle : k ≤ k * p.rowsPerChunk.toNat := Nat.le_mul_of_pos_right k hstep
  have hlt : p.totalRows.toNat < UInt64.size := p.totalRows.toNat_lt_size
  exact UInt64.toNat_ofNat_of_lt (by omega)

/-- No product wraps where a chunk begins. -/
theorem start_mul_lt : (UInt64.ofNat k).toNat * p.rowsPerChunk.toNat < UInt64.size := by
  have hlt : p.totalRows.toNat < UInt64.size := p.totalRows.toNat_lt_size
  rw [toNat_ofNat_chunk hstep hk]
  omega

theorem toNat_span_fst : (p.span k).1.toNat = k * p.rowsPerChunk.toNat := by
  show (UInt64.ofNat k * p.rowsPerChunk).toNat = _
  rw [toNat_mul_of_lt (start_mul_lt hstep hk), toNat_ofNat_chunk hstep hk]

variable (hend : k * p.rowsPerChunk.toNat + p.rowsPerChunk.toNat < UInt64.size)

include hend

theorem toNat_span_add_lt :
    (p.span k).1.toNat + p.rowsPerChunk.toNat < UInt64.size := by
  rwa [toNat_span_fst hstep hk]

/-- A chunk ends where the next one begins, or with the last row. -/
theorem toNat_span_snd_of_lt :
    (p.span k).2.toNat = min ((k + 1) * p.rowsPerChunk.toNat) p.totalRows.toNat := by
  show (min ((p.span k).1 + p.rowsPerChunk) p.totalRows).toNat = _
  rw [toNat_min, toNat_add_of_lt (toNat_span_add_lt hstep hk hend), toNat_span_fst hstep hk,
    Nat.succ_mul]

/-- A chunk has its span as its range if the row after a full chunk is a word. -/
theorem range?_eq_some : p.range? k = some (p.span k) := by
  show (Checked.add (p.span k).1 p.rowsPerChunk).bind _ = _
  rw [Checked.add_eq (toNat_span_add_lt hstep hk hend)]
  rfl

end

theorem toNat_span_snd (h : p.InMemory) {k : Nat}
    (hk : k * p.rowsPerChunk.toNat < p.totalRows.toNat) :
    (p.span k).2.toNat
      = min ((k + 1) * p.rowsPerChunk.toNat) p.totalRows.toNat :=
  toNat_span_snd_of_lt h.step_pos hk (start_add_lt h hk)

/-- Some chunks that follow each other tile the rows from the first of the first chunk on, as
long as the end of the last one is a word. -/
theorem tiles_span' (hstep : 0 < p.rowsPerChunk.toNat) : ∀ (n k : Nat),
    k + n ≤ p.chunkCount.toNat → (k + n) * p.rowsPerChunk.toNat < UInt64.size →
      Tiles (min (k * p.rowsPerChunk.toNat) p.totalRows.toNat)
        (min ((k + n) * p.rowsPerChunk.toNat) p.totalRows.toNat)
        ((List.range' k n).map p.span)
  | 0, k, _, _ => rfl
  | n + 1, k, hn, hend => by
      have hk : k * p.rowsPerChunk.toNat < p.totalRows.toNat :=
        (lt_toNat_divCeil hstep k).mp (show k < p.chunkCount.toNat by omega)
      have hle : (k + 1) * p.rowsPerChunk.toNat ≤ (k + (n + 1)) * p.rowsPerChunk.toNat :=
        Nat.mul_le_mul_right _ (by omega)
      have hnext : k + 1 + n = k + (n + 1) := by omega
      have ih := tiles_span' hstep n (k + 1) (by omega) (by rwa [hnext])
      rw [hnext] at ih
      rw [Nat.succ_mul] at hle
      rw [List.range'_succ, List.map_cons]
      have hstop := toNat_span_snd_of_lt hstep hk (by omega)
      refine ⟨?_, ?_, ?_⟩
      · rw [toNat_span_fst hstep hk, Nat.min_eq_left (Nat.le_of_lt hk)]
      · rw [hstop, Nat.succ_mul]
        omega
      · rw [hstop]
        exact ih

/-- The spans of a plan tile the rows, as long as its end is a word. -/
theorem tiles_spans_of_lt (hstep : 0 < p.rowsPerChunk.toNat)
    (hend : p.chunkCount.toNat * p.rowsPerChunk.toNat < UInt64.size) :
    Tiles 0 p.totalRows.toNat ((List.range p.chunkCount.toNat).map p.span) := by
  have hall : ¬ p.chunkCount.toNat * p.rowsPerChunk.toNat < p.totalRows.toNat :=
    mt (lt_toNat_divCeil hstep _).mpr (Nat.lt_irrefl _)
  have ht := tiles_span' hstep p.chunkCount.toNat 0 (by omega) (by rwa [Nat.zero_add])
  rw [Nat.zero_mul, Nat.zero_min, Nat.zero_add, Nat.min_eq_right (by omega)] at ht
  rw [List.range_eq_range']
  exact ht

/-- The spans of a plan tile the rows. -/
theorem tiles_spans (h : p.InMemory) :
    Tiles 0 p.totalRows.toNat ((List.range p.chunkCount.toNat).map p.span) :=
  tiles_spans_of_lt h.step_pos h.end_lt

/-- The ranges of a plan are the spans of its chunks, as long as its end is a word. -/
theorem ranges?_eq_some_of_lt (hstep : 0 < p.rowsPerChunk.toNat)
    (hend : p.chunkCount.toNat * p.rowsPerChunk.toNat < UInt64.size) :
    p.ranges? = some ((List.range p.chunkCount.toNat).map p.span) := by
  rw [ranges?, mapM_eq_some_iff, List.map_map]
  refine List.map_congr_left fun k hk => ?_
  have hlt : k < p.chunkCount.toNat := List.mem_range.mp hk
  exact range?_eq_some hstep ((lt_toNat_divCeil hstep k).mp hlt) (start_add_lt_of_end_lt hend hlt)

/-- A plan for rows in memory has all its ranges. -/
theorem ranges?_eq_some (h : p.InMemory) :
    p.ranges? = some ((List.range p.chunkCount.toNat).map p.span) :=
  ranges?_eq_some_of_lt h.step_pos h.end_lt

end BatchPlan

end BoundSql
