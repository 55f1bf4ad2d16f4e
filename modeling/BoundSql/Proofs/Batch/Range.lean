import BoundSql.Proofs.Batch.Insert

/-!
# Ranges of plans of any size

Nothing limits the rows that a plan counts but the size of a word, and the rows of a chunk
are only limited by the ceiling.  The last chunk may then be too long for the rows that are
left.  Its end is cut at the number of rows, but only behind a sum that may be no word, and
then the chunk has no range.

A plan *fits* if that sum is a word (`BatchPlan.Fits`).  This is so for all rows that could be
in memory, and it is what decides: a plan has its ranges, and they tile the rows, if and only
if the plan fits, and if it does not, then exactly the range of the last chunk is missing
(`BatchPlan.ranges_partition_iff`).
-/

namespace BoundSql

namespace BatchPlan

variable {p : BatchPlan} {k : Nat}

/-- The end of the last chunk would be a word even if the chunk were as long as the others. -/
def Fits (p : BatchPlan) : Prop := p.chunkCount.toNat * p.rowsPerChunk.toNat < UInt64.size

instance (p : BatchPlan) : Decidable p.Fits :=
  inferInstanceAs (Decidable (_ < _))

/-! ## The range of one chunk -/

section

variable (hstep : 0 < p.rowsPerChunk.toNat) (hk : k < p.chunkCount.toNat)

include hstep hk

theorem range?_eq_none (hend : ¬ k * p.rowsPerChunk.toNat + p.rowsPerChunk.toNat < UInt64.size) :
    p.range? k = none := by
  have hstart := toNat_span_fst hstep ((lt_toNat_divCeil hstep k).mp hk)
  show (Checked.add (p.span k).1 p.rowsPerChunk).bind _ = _
  rw [Checked.add_eq_none (by rwa [hstart])]
  rfl

/-- Only the last chunk may have no range, and has none if the plan does not fit. -/
theorem range?_eq_none_iff : p.range? k = none ↔ k + 1 = p.chunkCount.toNat ∧ ¬ p.Fits := by
  have hlt := (lt_toNat_divCeil hstep k).mp hk
  by_cases hend : k * p.rowsPerChunk.toNat + p.rowsPerChunk.toNat < UInt64.size
  · rw [range?_eq_some hstep hlt hend]
    refine iff_of_false nofun fun ⟨hlast, hfits⟩ => hfits ?_
    rwa [Fits, ← hlast, Nat.add_one_mul]
  · refine iff_of_true (range?_eq_none hstep hk hend)
      ⟨?_, fun hfits => hend (start_add_lt_of_end_lt hfits hk)⟩
    -- the next chunk would begin at no word, although there are rows behind its beginning
    refine Decidable.byContradiction fun hlast => hend ?_
    have hnext := (lt_toNat_divCeil hstep (k + 1)).mp (show k + 1 < p.chunkCount.toNat by omega)
    have hword : p.totalRows.toNat < UInt64.size := p.totalRows.toNat_lt_size
    rw [Nat.add_one_mul] at hnext
    omega

/-- A range begins behind the full chunks before it, and ends where the next chunk begins or with
the last row. -/
theorem toNat_of_range? {r : UInt64 × UInt64} (hr : p.range? k = some r) :
    r.1.toNat = k * p.rowsPerChunk.toNat
      ∧ r.2.toNat = min ((k + 1) * p.rowsPerChunk.toNat) p.totalRows.toNat := by
  have hlt := (lt_toNat_divCeil hstep k).mp hk
  have hend : k * p.rowsPerChunk.toNat + p.rowsPerChunk.toNat < UInt64.size := by
    refine Decidable.byContradiction fun hend => ?_
    cases hr.symm.trans (range?_eq_none hstep hk hend)
  obtain rfl : p.span k = r := Option.some.inj ((range?_eq_some hstep hlt hend).symm.trans hr)
  exact ⟨toNat_span_fst hstep hlt, toNat_span_snd_of_lt hstep hlt hend⟩

theorem size_range?_le {r : UInt64 × UInt64} (hr : p.range? k = some r) :
    r.2.toNat - r.1.toNat ≤ p.rowsPerChunk.toNat := by
  obtain ⟨hstart, hstop⟩ := toNat_of_range? hstep hk hr
  rw [hstart, hstop, Nat.add_one_mul]
  omega

/-- All chunks but the last are full. -/
theorem size_range?_of_next (hnext : k + 1 < p.chunkCount.toNat) {r : UInt64 × UInt64}
    (hr : p.range? k = some r) : r.2.toNat = r.1.toNat + p.rowsPerChunk.toNat := by
  obtain ⟨hstart, hstop⟩ := toNat_of_range? hstep hk hr
  have hlt := (lt_toNat_divCeil hstep (k + 1)).mp hnext
  rw [hstart, hstop, Nat.min_eq_left (Nat.le_of_lt hlt), Nat.add_one_mul]

end

/-! ## All ranges -/

/-- Chunks that have ranges give them out, and then the chunks behind them do. -/
theorem rangesFrom_add {m : Nat} : ∀ {n k : Nat},
    (∀ j, k ≤ j → j < k + n → p.range? j = some (p.span j)) →
      p.rangesFrom k (n + m) = (List.range' k n).map p.span ++ p.rangesFrom (k + n) m
  | 0, k, _ => by rw [Nat.zero_add, Nat.add_zero, List.range'_zero, List.map_nil, List.nil_append]
  | n + 1, k, h => by
      have hrest : ∀ j, k + 1 ≤ j → j < k + 1 + n → p.range? j = some (p.span j) :=
        fun j hj hlt => h j (by omega) (by omega)
      rw [Nat.add_right_comm, rangesFrom, h k (Nat.le_refl k) (by omega), rangesFrom_add hrest,
        List.range'_succ, List.map_cons, List.cons_append, Nat.add_right_comm k 1 n,
        Nat.add_assoc k n 1]

theorem firstRanges_chunkCount (p : BatchPlan) :
    p.firstRanges p.chunkCount.toNat = p.rangesFrom 0 p.chunkCount.toNat := by
  rw [firstRanges, Nat.min_self]

theorem range?_eq_span (hstep : 0 < p.rowsPerChunk.toNat) (hk : k < p.chunkCount.toNat)
    (h : k + 1 = p.chunkCount.toNat → p.Fits) : p.range? k = some (p.span k) := by
  have hlt := (lt_toNat_divCeil hstep k).mp hk
  refine range?_eq_some hstep hlt (Decidable.byContradiction fun hend => ?_)
  obtain ⟨hlast, hfits⟩ := (range?_eq_none_iff hstep hk).mp (range?_eq_none hstep hk hend)
  exact hfits (h hlast)

/-- A plan that fits gives out the spans of all its chunks. -/
theorem firstRanges_of_fits (hstep : 0 < p.rowsPerChunk.toNat) (hfits : p.Fits) :
    p.firstRanges p.chunkCount.toNat = (List.range p.chunkCount.toNat).map p.span := by
  have hranges : ∀ j, 0 ≤ j → j < 0 + p.chunkCount.toNat → p.range? j = some (p.span j) :=
    fun j _ hj => range?_eq_span hstep (by omega) fun _ => hfits
  have hall := rangesFrom_add (m := 0) hranges
  rw [firstRanges_chunkCount, List.range_eq_range']
  exact hall.trans (List.append_nil _)

/-- A plan that does not fit gives out the spans of all its chunks but the last. -/
theorem firstRanges_of_not_fits (hstep : 0 < p.rowsPerChunk.toNat) (hfits : ¬ p.Fits) {n : Nat}
    (hcount : p.chunkCount.toNat = n + 1) :
    p.firstRanges p.chunkCount.toNat = (List.range n).map p.span := by
  have hranges : ∀ j, 0 ≤ j → j < 0 + n → p.range? j = some (p.span j) :=
    fun j _ hj => range?_eq_span hstep (by omega) fun hlast => by omega
  have hnone : p.range? (0 + n) = none :=
    (range?_eq_none_iff hstep (by omega)).mpr ⟨by omega, hfits⟩
  have hlast : p.rangesFrom (0 + n) 1 = [] := by rw [rangesFrom, hnone]
  have hall := rangesFrom_add (m := 1) hranges
  rw [hlast, List.append_nil] at hall
  rw [firstRanges_chunkCount, hcount, List.range_eq_range']
  exact hall

theorem exists_chunkCount_of_not_fits (hfits : ¬ p.Fits) : ∃ n, p.chunkCount.toNat = n + 1 := by
  refine Nat.exists_eq_succ_of_ne_zero fun hzero => hfits ?_
  rw [Fits, hzero, Nat.zero_mul]
  decide

theorem ranges?_eq_none_iff (hstep : 0 < p.rowsPerChunk.toNat) : p.ranges? = none ↔ ¬ p.Fits := by
  constructor
  · intro hnone hfits
    rw [ranges?_eq_some_of_lt hstep hfits] at hnone
    cases hnone
  · intro hfits
    obtain ⟨n, hcount⟩ := exists_chunkCount_of_not_fits hfits
    have hlast : n < p.chunkCount.toNat := by omega
    exact mapM_eq_none ((range?_eq_none_iff hstep hlast).mpr ⟨hcount.symm, hfits⟩)
      (List.mem_range.mpr hlast)

/-- The ranges that a plan which does not fit gives out tile the rows in front of the last
chunk, which has rows as well. -/
theorem tiles_of_not_fits (hstep : 0 < p.rowsPerChunk.toNat) (hfits : ¬ p.Fits) :
    ∃ n, p.chunkCount.toNat = n + 1
      ∧ (p.firstRanges p.chunkCount.toNat).length = n
      ∧ Tiles 0 (n * p.rowsPerChunk.toNat) (p.firstRanges p.chunkCount.toNat)
      ∧ n * p.rowsPerChunk.toNat < p.totalRows.toNat := by
  obtain ⟨n, hcount⟩ := exists_chunkCount_of_not_fits hfits
  have hn : n * p.rowsPerChunk.toNat < p.totalRows.toNat :=
    (lt_toNat_divCeil hstep n).mp (show n < p.chunkCount.toNat by omega)
  have hword : p.totalRows.toNat < UInt64.size := p.totalRows.toNat_lt_size
  have htiles := tiles_span' hstep n 0 (by omega) (by rw [Nat.zero_add]; omega)
  rw [Nat.zero_mul, Nat.zero_min, Nat.zero_add, Nat.min_eq_left (Nat.le_of_lt hn)] at htiles
  rw [firstRanges_of_not_fits hstep hfits hcount, List.range_eq_range']
  refine ⟨n, hcount, ?_, htiles, hn⟩
  rw [List.length_map, List.length_range']

/-- A plan counts one chunk for each multiple of its step below the number of rows.  It has all
its ranges if and only if it fits, as it does with fewer than `2 ^ 63` rows, and then they tile
the rows.  The chunk without a range, if there is one, is the last.  Where there is a range it
begins behind full chunks, only the last one may be shorter, and none takes more parameters than
there may be.  The ranges of a plan that does not fit are given out up to the last one, and tile
what is in front of it. -/
theorem ranges_partition_iff (totalRows columns maxParams : UInt64) (p : BatchPlan)
    (h : make totalRows columns maxParams = .ok p) :
    Checked.divCeil p.totalRows p.rowsPerChunk = some p.chunkCount
      ∧ (∀ k, k < p.chunkCount.toNat ↔ k * p.rowsPerChunk.toNat < totalRows.toNat)
      ∧ (p.ranges? = none ↔ ¬ p.Fits)
      ∧ (totalRows.toNat < signedSize → p.Fits)
      ∧ (∀ rs, p.ranges? = some rs → rs.length = p.chunkCount.toNat
          ∧ Tiles 0 totalRows.toNat rs ∧ p.firstRanges p.chunkCount.toNat = rs)
      ∧ (∀ k < p.chunkCount.toNat,
          (p.range? k = none ↔ k + 1 = p.chunkCount.toNat ∧ ¬ p.Fits)
          ∧ ∀ r, p.range? k = some r →
              r.1.toNat = k * p.rowsPerChunk.toNat
                ∧ (k + 1 < p.chunkCount.toNat → r.2.toNat = r.1.toNat + p.rowsPerChunk.toNat)
                ∧ r.2.toNat - r.1.toNat ≤ p.rowsPerChunk.toNat
                ∧ (r.2.toNat - r.1.toNat) * columns.toNat ≤ maxParams.toNat)
      ∧ (¬ p.Fits → ∃ n, p.chunkCount.toNat = n + 1
          ∧ (p.firstRanges p.chunkCount.toNat).length = n
          ∧ Tiles 0 (n * p.rowsPerChunk.toNat) (p.firstRanges p.chunkCount.toNat)
          ∧ n * p.rowsPerChunk.toNat < totalRows.toNat) := by
  obtain ⟨_, hne, hp⟩ := make_eq_ok h
  have htotal : p.totalRows = totalRows := by rw [hp]
  have hrowsPerChunk : p.rowsPerChunk = maxParams / columns := by rw [hp]
  have hstep : 0 < p.rowsPerChunk.toNat := by
    rw [hrowsPerChunk]
    exact toNat_pos.mpr hne
  rw [← htotal]
  refine ⟨Checked.divCeil_eq hstep, lt_toNat_divCeil hstep, ranges?_eq_none_iff hstep,
    fun hfew => InMemory.end_lt ⟨hstep, hfew⟩, fun rs hrs => ?_, fun k hk => ?_,
    tiles_of_not_fits hstep⟩
  · have hfits : p.Fits := Decidable.byContradiction fun hfits => by
      cases hrs.symm.trans ((ranges?_eq_none_iff hstep).mpr hfits)
    obtain rfl := Option.some.inj ((ranges?_eq_some_of_lt hstep hfits).symm.trans hrs)
    refine ⟨?_, tiles_spans_of_lt hstep hfits, firstRanges_of_fits hstep hfits⟩
    rw [List.length_map, List.length_range]
  · refine ⟨range?_eq_none_iff hstep hk, fun r hr => ?_⟩
    have hrows := size_range?_le hstep hk hr
    refine ⟨(toNat_of_range? hstep hk hr).1, fun hnext => size_range?_of_next hstep hk hnext hr,
      hrows, ?_⟩
    calc (r.2.toNat - r.1.toNat) * columns.toNat
        ≤ p.rowsPerChunk.toNat * columns.toNat := Nat.mul_le_mul_right _ hrows
      _ = maxParams.toNat / columns.toNat * columns.toNat := by
          rw [hrowsPerChunk, UInt64.toNat_div]
      _ ≤ maxParams.toNat := Nat.div_mul_le_self _ _

/-- A plan for as many rows as a word can count, in chunks of more than half of them. -/
def huge : BatchPlan := ⟨0xffffffffffffffff, 1, 0x8000000000000001⟩

/-- The second of two chunks has no range. -/
theorem ranges_partition_iff_huge :
    make 0xffffffffffffffff 1 0x8000000000000001 = .ok huge ∧ huge.chunkCount = 2
      ∧ huge.ranges? = none ∧ huge.range? 1 = none
      ∧ huge.firstRanges 2 = [(0, 0x8000000000000001)]
      ∧ Tiles 0 0x8000000000000001 (huge.firstRanges 2) := by
  have hmake : make 0xffffffffffffffff 1 0x8000000000000001 = .ok huge := by rfl
  have hfits : ¬ huge.Fits := by decide
  have hcount : huge.chunkCount.toNat = 2 := by decide
  obtain ⟨_, _, hranges, _, _, hchunks, hrest⟩ := ranges_partition_iff _ _ _ _ hmake
  obtain ⟨n, hn, _, htiles, _⟩ := hrest hfits
  obtain rfl : n = 1 := by omega
  rw [hcount] at htiles
  refine ⟨hmake, by decide, hranges.mpr hfits, ?_, by decide, htiles⟩
  exact (hchunks 1 (by decide)).1.mpr ⟨by decide, hfits⟩

end BatchPlan

end BoundSql
