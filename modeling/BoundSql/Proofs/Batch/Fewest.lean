import BoundSql.Proofs.Batch.Insert
import Mathlib.Algebra.Order.BigOperators.Group.List
import Mathlib.Algebra.Order.Floor.Div

/-!
# The fewest chunks

A `Grouping` puts every row into one group, in any order, such that no group has more values
than the ceiling.  There are groupings if and only if a single row is below the ceiling
(`Grouping.isEmpty_iff`), and then a group has room for as many rows as a chunk of the plan.  So
there are at least as many groups as chunks, and the chunks are such groups themselves:
`BatchPlan.chunkCount_least` says that a plan has the fewest chunks that there can be.
-/

namespace BoundSql

/-! ## Blocks -/

/-- As many blocks as wanted from the front of a list, all of one size as long as there are
enough members. -/
def blocks {α : Type} (size : Nat) : Nat → List α → List (List α)
  | 0, _ => []
  | n + 1, xs => xs.take size :: blocks size n (xs.drop size)

section

variable {α : Type} {size : Nat}

theorem length_blocks : ∀ (n : Nat) (xs : List α), (blocks size n xs).length = n
  | 0, _ => rfl
  | n + 1, xs => by simp [blocks, length_blocks n]

/-- Nothing is left over if there are enough blocks. -/
theorem flatten_blocks : ∀ {n : Nat} {xs : List α}, xs.length ≤ n * size →
    (blocks size n xs).flatten = xs
  | 0, xs, h => by
      have hnil : xs = [] := by simpa using h
      simp [blocks, hnil]
  | n + 1, xs, h => by
      have hrest : (xs.drop size).length ≤ n * size := by
        rw [Nat.add_one_mul] at h
        simp only [List.length_drop]
        omega
      simp [blocks, flatten_blocks hrest]

theorem length_le_of_mem_blocks : ∀ {n : Nat} {xs block : List α}, block ∈ blocks size n xs →
    block.length ≤ size
  | n + 1, xs, block, h => by
      rcases List.mem_cons.mp h with rfl | h
      · simp
      · exact length_le_of_mem_blocks h

/-- No block is empty as long as there is a member for the first place of each. -/
theorem ne_nil_of_mem_blocks (hsize : 0 < size) : ∀ {n : Nat} {xs block : List α},
    (∀ k < n, k * size < xs.length) → block ∈ blocks size n xs → block ≠ []
  | n + 1, xs, block, hplaces, h => by
      rcases List.mem_cons.mp h with rfl | h
      · have hfirst := hplaces 0 (Nat.succ_pos n)
        rw [← List.length_pos_iff]
        simp
        omega
      · refine ne_nil_of_mem_blocks hsize (fun k hk => ?_) h
        have hnext := hplaces (k + 1) (Nat.succ_lt_succ hk)
        rw [Nat.add_one_mul] at hnext
        simp only [List.length_drop]
        omega

end

/-! ## Rounding up -/

theorem lt_ceilDiv {a b k : Nat} (h : 0 < b) : k < a ⌈/⌉ b ↔ k * b < a := by
  rw [Nat.mul_comm]
  exact lt_iff_lt_of_le_iff_le (ceilDiv_le_iff_le_mul h)

/-- A common factor does not change the quotient. -/
theorem mul_ceilDiv_mul {a b c : Nat} (hb : 0 < b) (hc : 0 < c) : (a * c) ⌈/⌉ (b * c) = a ⌈/⌉ b := by
  refine eq_of_forall_lt_iff fun k => ?_
  rw [lt_ceilDiv (Nat.mul_pos hb hc), lt_ceilDiv hb, ← Nat.mul_assoc, Nat.mul_lt_mul_right hc]

/-! ## Groupings -/

/-- A way to put rows of some columns into groups. -/
structure Grouping (rows columns ceiling : Nat) where
  /-- The numbers of the rows in each group. -/
  groups : List (List Nat)
  /-- Every row is in one group. -/
  perm : groups.flatten.Perm (List.range rows)
  /-- No group is empty. -/
  nonempty : ∀ g ∈ groups, g ≠ []
  /-- No group has more values than the ceiling. -/
  narrow : ∀ g ∈ groups, columns * g.length ≤ ceiling

namespace Grouping

variable {rows columns ceiling : Nat}

/-- The rows are spread over the groups, and each group has only so much room. -/
theorem rows_le (g : Grouping rows columns ceiling) (hcolumns : 0 < columns) :
    rows ≤ g.groups.length * (ceiling / columns) := by
  have hroom : ∀ n ∈ g.groups.map List.length, n ≤ ceiling / columns := by
    intro n hn
    obtain ⟨group, hgroup, rfl⟩ := List.mem_map.mp hn
    rw [Nat.le_div_iff_mul_le hcolumns, Nat.mul_comm]
    exact g.narrow group hgroup
  calc rows
      = g.groups.flatten.length := by simp [g.perm.length_eq]
    _ = (g.groups.map List.length).sum := List.length_flatten
    _ ≤ (g.groups.map List.length).length • (ceiling / columns) :=
        List.sum_le_card_nsmul _ _ hroom
    _ = g.groups.length * (ceiling / columns) := by simp

/-- Groups with as many rows as there is room for, but for the last one. -/
def even (rows : Nat) (h : 0 < ceiling / columns) : Grouping rows columns ceiling where
  groups := blocks (ceiling / columns) (rows ⌈/⌉ (ceiling / columns)) (List.range rows)
  perm := by
    have hall : rows ≤ rows ⌈/⌉ (ceiling / columns) * (ceiling / columns) :=
      Nat.not_lt.mp (mt (lt_ceilDiv h).mpr (Nat.lt_irrefl _))
    rw [flatten_blocks (by simpa using hall)]
  nonempty g hg := by
    refine ne_nil_of_mem_blocks h (fun k hk => ?_) hg
    simpa using (lt_ceilDiv h).mp hk
  narrow g hg := calc
    columns * g.length ≤ columns * (ceiling / columns) :=
        Nat.mul_le_mul_left _ (length_le_of_mem_blocks hg)
    _ ≤ ceiling := Nat.mul_div_le ceiling columns

/-- Rows cannot be put into groups if and only if none has room for a row. -/
theorem isEmpty_iff (hrows : 0 < rows) (hcolumns : 0 < columns) :
    IsEmpty (Grouping rows columns ceiling) ↔ ceiling / columns = 0 := by
  constructor
  · intro hempty
    by_contra h
    exact hempty.false (even rows (Nat.pos_of_ne_zero h))
  · intro h
    refine ⟨fun g => ?_⟩
    have hle := g.rows_le hcolumns
    rw [h, Nat.mul_zero] at hle
    omega

end Grouping

/-! ## The chunks of a plan -/

namespace BatchPlan

/-- A plan has as many chunks as its rows fill, the last of them perhaps in part. -/
theorem toNat_chunkCount {p : BatchPlan} (h : 0 < p.rowsPerChunk.toNat) :
    p.chunkCount.toNat = p.totalRows.toNat ⌈/⌉ p.rowsPerChunk.toNat := by
  refine eq_of_forall_lt_iff fun k => ?_
  rw [chunkCount, lt_toNat_divCeil h, lt_ceilDiv h]

theorem make_eq_rowTooWide_iff {totalRows columns maxParams : UInt64} {width limit : Nat} :
    make totalRows columns maxParams = .error (.rowTooWide width limit)
      ↔ (0 < totalRows.toNat ∧ 0 < columns.toNat ∧ maxParams.toNat / columns.toNat = 0)
        ∧ columns.toNat = width ∧ maxParams.toNat = limit := by
  rw [toNat_pos, toNat_pos, ← UInt64.toNat_div, ← UInt64.toNat_zero, UInt64.toNat_inj, make]
  by_cases hrows : totalRows = 0
  · simp [hrows]
  · by_cases hcolumns : columns = 0
    · simp [hrows, hcolumns]
    · by_cases hstep : maxParams / columns = 0 <;> simp [hrows, hcolumns, hstep]

/-- A plan has the fewest chunks.  However the rows are put into groups below the ceiling, there
are as many groups as chunks or more, and so few are possible.  In exact numbers there are as many
chunks as the values of all rows fill, if each takes a whole number of rows.  Rows are too wide if
and only if there are rows with columns and no way to put them into groups. -/
theorem chunkCount_least (totalRows columns maxParams : UInt64) :
    (∀ p, make totalRows columns maxParams = .ok p →
      p.chunkCount.toNat = (totalRows.toNat * columns.toNat)
          ⌈/⌉ (maxParams.toNat / columns.toNat * columns.toNat)
        ∧ (∀ g : Grouping totalRows.toNat columns.toNat maxParams.toNat,
            p.chunkCount.toNat ≤ g.groups.length)
        ∧ ∃ g : Grouping totalRows.toNat columns.toNat maxParams.toNat,
            g.groups.length = p.chunkCount.toNat)
      ∧ ∀ width limit, make totalRows columns maxParams = .error (.rowTooWide width limit)
          ↔ (0 < totalRows.toNat ∧ 0 < columns.toNat
              ∧ IsEmpty (Grouping totalRows.toNat columns.toNat maxParams.toNat))
            ∧ columns.toNat = width ∧ maxParams.toNat = limit := by
  constructor
  · intro p hp
    obtain ⟨hne, hstep, rfl⟩ := make_eq_ok hp
    have hcolumns : 0 < columns.toNat := toNat_pos.mpr hne
    have hroom : 0 < maxParams.toNat / columns.toNat := by
      rw [← UInt64.toNat_div]
      exact toNat_pos.mpr hstep
    have hcount := toNat_chunkCount (p := ⟨totalRows, columns, maxParams / columns⟩)
      (by rwa [UInt64.toNat_div])
    simp only [UInt64.toNat_div] at hcount
    rw [hcount]
    refine ⟨(mul_ceilDiv_mul hroom hcolumns).symm, fun g => ?_, .even totalRows.toNat hroom, ?_⟩
    · rw [ceilDiv_le_iff_le_mul hroom, Nat.mul_comm]
      exact g.rows_le hcolumns
    · exact length_blocks _ _
  · intro width limit
    rw [make_eq_rowTooWide_iff]
    refine and_congr_left fun _ => and_congr_right fun hrows => and_congr_right fun hcolumns => ?_
    exact (Grouping.isEmpty_iff hrows hcolumns).symm

/-- Seven rows of three columns fit into a ceiling of seven two by two.  There are four chunks,
though twenty-one values would fit into three. -/
theorem chunkCount_least_sevenRows :
    make 7 3 7 = .ok ⟨7, 3, 2⟩ ∧ (7 * 3) ⌈/⌉ 7 = 3
      ∧ (∀ g : Grouping 7 3 7, 4 ≤ g.groups.length)
      ∧ (∃ g : Grouping 7 3 7, g.groups.length = 4)
      ∧ make 7 3 2 = .error (.rowTooWide 3 2) ∧ IsEmpty (Grouping 7 3 2) := by
  have hmake : make 7 3 7 = .ok ⟨7, 3, 2⟩ := rfl
  have hwide : make 7 3 2 = .error (.rowTooWide 3 2) := rfl
  obtain ⟨_, hleast, heven⟩ := (chunkCount_least 7 3 7).1 _ hmake
  obtain ⟨⟨_, _, hempty⟩, _⟩ := ((chunkCount_least 7 3 2).2 3 2).mp hwide
  exact ⟨hmake, rfl, hleast, heven, hwide, hempty⟩

end BatchPlan

end BoundSql
