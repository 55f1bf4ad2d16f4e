import BoundSql.Proofs.Batch.Chunk
import BoundSql.Proofs.Batch.Requirement

/-!
# Compiled batches

A batch that compiles has rows, and they share their columns
(`BatchInsert.columns_eq_ok`).  The cursor of such a batch stands before the first
chunk, and what it gives out is known in closed form (`BatchInsert.chunks_eq`).  With
it, `BatchInsert.compile_partition` says that the chunks neither lose nor repeat nor
move a row, that each of them writes just the rows of its range, and that no word
wraps on the way.
-/

namespace BoundSql

/-! ## Well formed batches -/

/-- Signed words can count the rows and the columns of each row, as they can whatever
is in memory. -/
structure RowsInMemory (rows : List Row) : Prop where
  /-- There are not too many rows. -/
  rows_lt : rows.length < signedSize
  /-- No row has too many columns. -/
  columns_lt : ∀ r ∈ rows, r.columns.length < signedSize

namespace BatchInsert

theorem compile_eq (b : BatchInsert) (d : Dialect) (maxParams : UInt64) :
    b.compile d maxParams = b.columns >>= fun columns =>
      BatchPlan.make (UInt64.ofNat b.rows.length) (UInt64.ofNat columns.length) maxParams >>=
        fun plan => .ok ⟨b.frame d columns, plan, 0, b.rows⟩ := rfl

theorem plan_eq (b : BatchInsert) (maxParams : UInt64) :
    b.plan maxParams = b.columns >>= fun columns =>
      BatchPlan.make (UInt64.ofNat b.rows.length) (UInt64.ofNat columns.length) maxParams := rfl

theorem isBlankText_table {b : BatchInsert} {columns : List String}
    (h : b.columns = .ok columns) : Text.isBlankText b.table = false := by
  have hmet := ((columns_eq_ok_iff 0).mp h).1 .named (by decide)
  simpa [Requirement.Met] using hmet

/-- The rows of a well formed batch have its columns, and there are such. -/
theorem columns_eq_ok {b : BatchInsert} {columns : List String} (h : b.columns = .ok columns) :
    b.rows ≠ [] ∧ columns ≠ [] ∧ ∀ r ∈ b.rows, r.columns = columns := by
  obtain ⟨hmet, rfl⟩ := (columns_eq_ok_iff 0).mp h
  exact ⟨hmet .filled (by decide), hmet .columned (by decide), hmet .uniform (by decide)⟩

end BatchInsert

namespace BatchPlan

theorem make_eq_ok {totalRows columns maxParams : UInt64} {p : BatchPlan}
    (h : make totalRows columns maxParams = .ok p) :
    columns ≠ 0 ∧ maxParams / columns ≠ 0 ∧ p = ⟨totalRows, columns, maxParams / columns⟩ := by
  rw [make, ite_error_eq_ok, ite_error_eq_ok, ite_error_eq_ok] at h
  obtain ⟨_, hcolumns, hstep, hp⟩ := h
  exact ⟨hcolumns, hstep, (Except.ok.inj hp).symm⟩

end BatchPlan

namespace BatchInsert

variable {b : BatchInsert} {d : Dialect} {maxParams : UInt64} {c : ChunkCursor}

/-- What the parts of a compiled batch are. -/
theorem compile_eq_ok (h : b.compile d maxParams = .ok c) :
    ∃ columns, b.columns = .ok columns ∧ UInt64.ofNat columns.length ≠ 0 ∧
      maxParams / UInt64.ofNat columns.length ≠ 0 ∧
      c = ⟨b.frame d columns, ⟨UInt64.ofNat b.rows.length, UInt64.ofNat columns.length,
        maxParams / UInt64.ofNat columns.length⟩, 0, b.rows⟩ := by
  rw [compile_eq] at h
  obtain ⟨columns, hcolumns, h⟩ := bind_eq_ok.mp h
  obtain ⟨plan, hplan, h⟩ := bind_eq_ok.mp h
  obtain ⟨hne, hstep, rfl⟩ := BatchPlan.make_eq_ok hplan
  exact ⟨columns, hcolumns, hne, hstep, (Except.ok.inj h).symm⟩

theorem toNat_ofNat_rows (hmem : RowsInMemory b.rows) :
    (UInt64.ofNat b.rows.length).toNat = b.rows.length := by
  have hlt := hmem.rows_lt
  have hsize := two_mul_signedSize
  exact UInt64.toNat_ofNat_of_lt (by omega)

theorem toNat_ofNat_columns (hmem : RowsInMemory b.rows) {columns : List String}
    (h : b.columns = .ok columns) : (UInt64.ofNat columns.length).toNat = columns.length := by
  obtain ⟨hrows, _, hshape⟩ := columns_eq_ok h
  obtain ⟨first, hfirst⟩ := List.exists_mem_of_ne_nil b.rows hrows
  have hlt := hmem.columns_lt first hfirst
  rw [hshape first hfirst] at hlt
  have hsize := two_mul_signedSize
  exact UInt64.toNat_ofNat_of_lt (by omega)

/-- Rows of a batch with columns are planned unless they are too wide. -/
theorem make_of_columns (hmem : RowsInMemory b.rows) {columns : List String}
    (hcolumns : b.columns = .ok columns) :
    BatchPlan.make (UInt64.ofNat b.rows.length) (UInt64.ofNat columns.length) maxParams
      = if maxParams.toNat < columns.length then .error (.rowTooWide columns.length maxParams.toNat)
        else .ok ⟨UInt64.ofNat b.rows.length, UInt64.ofNat columns.length,
          maxParams / UInt64.ofNat columns.length⟩ := by
  obtain ⟨hrows, hnonempty, _⟩ := columns_eq_ok hcolumns
  have hlength := toNat_ofNat_columns hmem hcolumns
  have hpos : 0 < columns.length := List.length_pos_iff.mpr hnonempty
  have hsome : UInt64.ofNat b.rows.length ≠ 0 := by
    intro hz
    have hzero : b.rows.length = 0 := (toNat_ofNat_rows hmem).symm.trans (hz ▸ rfl)
    exact hrows (List.length_eq_zero_iff.mp hzero)
  have hwide : UInt64.ofNat columns.length ≠ 0 := by
    intro hz
    have hzero : columns.length = 0 := hlength.symm.trans (hz ▸ rfl)
    omega
  have hstep : maxParams / UInt64.ofNat columns.length = 0 ↔ maxParams.toNat < columns.length := by
    rw [← UInt64.toNat_inj, UInt64.toNat_div, hlength]
    show maxParams.toNat / columns.length = 0 ↔ _
    rw [Nat.div_eq_zero_iff]
    omega
  rw [BatchPlan.make, if_neg hsome, if_neg hwide, hlength]
  simp only [hstep]

/-- A batch that is well formed but does not compile has rows that are too wide. -/
theorem compile_eq_error_iff (hmem : RowsInMemory b.rows) {columns : List String}
    (hcolumns : b.columns = .ok columns) :
    (∃ refusal, b.compile d maxParams = .error refusal) ↔ maxParams.toNat < columns.length := by
  rw [compile_eq, hcolumns]
  show (∃ refusal, (BatchPlan.make _ _ _ >>= _) = _) ↔ _
  rw [make_of_columns hmem hcolumns]
  by_cases hwide : maxParams.toNat < columns.length
  · rw [if_pos hwide]
    exact ⟨fun _ => hwide, fun _ => ⟨_, rfl⟩⟩
  · rw [if_neg hwide]
    exact ⟨fun ⟨_, h⟩ => (nomatch h), fun h => absurd h hwide⟩

/-- The cursor of a compiled batch stands before the first chunk. -/
theorem compile_at (hmem : RowsInMemory b.rows) (h : b.compile d maxParams = .ok c) :
    ChunkCursor.At b.rows 0 c := by
  obtain ⟨columns, _, _, hstep, rfl⟩ := compile_eq_ok h
  have hrows := toNat_ofNat_rows hmem
  have hfew := hmem.rows_lt
  constructor
  · exact ⟨toNat_pos.mpr hstep, by rw [hrows]; exact hfew⟩
  · exact hrows
  · rw [Nat.zero_mul, Nat.zero_min]
    rfl
  · rfl

theorem chunkCount_le (hmem : RowsInMemory b.rows) (h : b.compile d maxParams = .ok c) :
    c.plan.chunkCount.toNat ≤ b.rows.length := by
  have hat := compile_at hmem h
  have htiles := (BatchPlan.tiles_spans hat.inMemory).length_le
  rw [List.length_map, List.length_range, hat.total, Nat.zero_add] at htiles
  exact htiles

theorem compile_yields (hmem : RowsInMemory b.rows) (h : b.compile d maxParams = .ok c) :
    c.Yields ((List.range c.plan.chunkCount.toNat).map (c.frame.chunk c.plan b.rows)) := by
  rw [List.range_eq_range']
  exact (compile_at hmem h).yields (Nat.zero_add _)

/-- The chunks of a compiled batch are those of its plan. -/
theorem chunks_eq (hmem : RowsInMemory b.rows) (h : b.compile d maxParams = .ok c) :
    c.chunks = (List.range c.plan.chunkCount.toNat).map (c.frame.chunk c.plan b.rows) := by
  have hpending : c.pending = b.rows := by
    obtain ⟨_, _, _, _, rfl⟩ := compile_eq_ok h
    rfl
  refine (compile_yields hmem h).taken_eq ?_
  rw [List.length_map, List.length_range, hpending]
  exact chunkCount_le hmem h

theorem map_range_chunks (hmem : RowsInMemory b.rows) (h : b.compile d maxParams = .ok c) :
    c.chunks.map Chunk.range = (List.range c.plan.chunkCount.toNat).map c.plan.span := by
  rw [chunks_eq hmem h, List.map_map]
  rfl

/-- The plan has a range for every chunk, and it is that of the chunk. -/
theorem ranges?_eq_chunks (hmem : RowsInMemory b.rows) (h : b.compile d maxParams = .ok c) :
    c.plan.ranges? = some (c.chunks.map Chunk.range) := by
  rw [map_range_chunks hmem h]
  exact BatchPlan.ranges?_eq_some (compile_at hmem h).inMemory

theorem tiles_chunks (hmem : RowsInMemory b.rows) (h : b.compile d maxParams = .ok c) :
    Tiles 0 b.rows.length (c.chunks.map Chunk.range) := by
  have hat := compile_at hmem h
  rw [map_range_chunks hmem h, ← hat.total]
  exact BatchPlan.tiles_spans hat.inMemory

theorem compile_writes (hmem : RowsInMemory b.rows) (h : b.compile d maxParams = .ok c)
    {columns : List String} (hcolumns : b.columns = .ok columns) :
    ∀ chunk ∈ c.chunks, chunk.Writes (b.frame d columns) b.rows columns.length := by
  have hat := compile_at hmem h
  obtain ⟨_, _, hshape⟩ := columns_eq_ok hcolumns
  have hframe : c.frame = b.frame d columns := by
    obtain ⟨columns', hcolumns', _, _, rfl⟩ := compile_eq_ok h
    rw [Except.ok.inj (hcolumns.symm.trans hcolumns')]
  intro chunk hchunk
  rw [chunks_eq hmem h] at hchunk
  obtain ⟨k, hk, rfl⟩ := List.mem_map.mp hchunk
  have hlt := (BatchPlan.lt_chunkCount hat.inMemory k).mp (List.mem_range.mp hk)
  rw [hframe]
  apply ChunkFrame.chunk_writes
  · intro r hr
    rw [r.length_values, hshape r hr]
  · rw [BatchPlan.toNat_span_snd hat.inMemory hlt, hat.total]
    exact Nat.min_le_right _ _

/-- No chunk is larger than the plan allows. -/
theorem size_chunk_le (hmem : RowsInMemory b.rows) (h : b.compile d maxParams = .ok c) :
    ∀ chunk ∈ c.chunks, chunk.size ≤ c.plan.rowsPerChunk.toNat := by
  have hat := compile_at hmem h
  intro chunk hchunk
  rw [chunks_eq hmem h] at hchunk
  obtain ⟨k, hk, rfl⟩ := List.mem_map.mp hchunk
  have hlt := (BatchPlan.lt_chunkCount hat.inMemory k).mp (List.mem_range.mp hk)
  show (c.plan.span k).2.toNat - (c.plan.span k).1.toNat ≤ _
  rw [BatchPlan.toNat_span_snd hat.inMemory hlt,
    BatchPlan.toNat_span_fst hat.inMemory.step_pos hlt, Nat.succ_mul]
  omega

/-- A chunk has no more parameters than the ceiling allows. -/
theorem length_params_le (hmem : RowsInMemory b.rows) (h : b.compile d maxParams = .ok c) :
    ∀ chunk ∈ c.chunks, chunk.statement.params.length ≤ maxParams.toNat := by
  intro chunk hchunk
  have hsize := size_chunk_le hmem h chunk hchunk
  obtain ⟨columns, hcolumns, _, _, hc⟩ := compile_eq_ok h
  have hwrites := compile_writes hmem h hcolumns chunk hchunk
  have hstep : c.plan.rowsPerChunk.toNat = maxParams.toNat / columns.length := by
    rw [hc]
    show (maxParams / UInt64.ofNat columns.length).toNat = _
    rw [UInt64.toNat_div, toNat_ofNat_columns hmem hcolumns]
  calc chunk.statement.params.length
      = chunk.size * columns.length := hwrites.length_params
    _ ≤ maxParams.toNat / columns.length * columns.length :=
        Nat.mul_le_mul_right _ (hstep ▸ hsize)
    _ ≤ maxParams.toNat := Nat.div_mul_le_self _ _

/-- The parameters of all chunks are the values of all rows. -/
theorem flatMap_params (hmem : RowsInMemory b.rows) (h : b.compile d maxParams = .ok c) :
    c.chunks.flatMap (·.statement.params) = b.rows.flatMap Row.values := by
  obtain ⟨columns, hcolumns, _⟩ := compile_eq_ok h
  have hwrites := compile_writes hmem h hcolumns
  have hslices : (c.chunks.map Chunk.range).flatMap (slice b.rows) = b.rows := by
    rw [(tiles_chunks hmem h).flatMap_slice b.rows, List.extract_eq_take_drop, List.drop_zero,
      Nat.sub_zero, List.take_length]
  calc c.chunks.flatMap (·.statement.params)
      = c.chunks.flatMap fun chunk => (slice b.rows chunk.range).flatMap Row.values := by
        rw [List.flatMap_def, List.flatMap_def,
          List.map_congr_left fun chunk hchunk => (hwrites chunk hchunk).params]
    _ = ((c.chunks.map Chunk.range).flatMap (slice b.rows)).flatMap Row.values := by
        rw [List.flatMap_map, List.flatMap_assoc]
    _ = b.rows.flatMap Row.values := by rw [hslices]

/-- A batch without lists has chunks without lists. -/
theorem scalar_chunks (hmem : RowsInMemory b.rows) (h : b.compile d maxParams = .ok c)
    (hscalar : ∀ r ∈ b.rows, ∀ v ∈ r.values, v.isScalar) :
    ∀ chunk ∈ c.chunks, ∀ v ∈ chunk.statement.params, v.isScalar := by
  intro chunk hchunk v hv
  have hvalue : v ∈ b.rows.flatMap Row.values :=
    flatMap_params hmem h ▸ List.mem_flatMap.mpr ⟨chunk, hchunk, hv⟩
  obtain ⟨r, hr, hvr⟩ := List.mem_flatMap.mp hvalue
  exact hscalar r hr v hvr

/-- The division that makes the plan has a divisor. -/
theorem checkedDiv_eq (h : b.compile d maxParams = .ok c) :
    Checked.div maxParams c.plan.columns = some c.plan.rowsPerChunk := by
  obtain ⟨columns, hcolumns, hne, _, rfl⟩ := compile_eq_ok h
  exact Checked.div_eq (toNat_pos.mpr hne)

/-- Behind the values of a batch is the clause that merges, and nothing if it does not. -/
theorem tail_frame (b : BatchInsert) (d : Dialect) (columns : List String) :
    ((∀ policy, b.mode ≠ .upsert policy) → (b.frame d columns).tail = "")
      ∧ ∀ policy, b.mode = .upsert policy →
          (b.frame d columns).tail = " " ++ d.renderUpsert b.conflictColumns policy := by
  cases hmode : b.mode with
  | insert | insertIgnore =>
      refine ⟨fun _ => ?_, nofun⟩
      rw [frame, hmode]
  | upsert policy =>
      refine ⟨fun hnone => absurd rfl (hnone policy), fun policy' h => ?_⟩
      cases h
      rw [frame, hmode]

/-- The chunks of a batch split its rows.  The cursor gives out as many chunks as the
plan says and then stops.  Their ranges are those of the plan and tile the rows, each
chunk writes the rows of its range and keeps to the ceiling, and all together write
all rows.  The text around the groups of placeholders is the same in all of them: it
ends with `VALUES` in front of them, and behind them is at most the clause that merges.
No word wraps on the way, wherever the cursor is. -/
theorem compile_partition (b : BatchInsert) (d : Dialect) (maxParams : UInt64)
    (c : ChunkCursor) (hmem : RowsInMemory b.rows) (h : b.compile d maxParams = .ok c) :
    ∃ columns, b.columns = .ok columns
      ∧ c.Yields c.chunks
      ∧ c.chunks.length = c.plan.chunkCount.toNat
      ∧ Tiles 0 b.rows.length (c.chunks.map Chunk.range)
      ∧ c.plan.ranges? = some (c.chunks.map Chunk.range)
      ∧ (b.frame d columns).head
        = b.mode.verb.render d ++ " INTO " ++ d.quote b.table
          ++ " (" ++ String.intercalate ", " (columns.map d.quote) ++ ") VALUES "
      ∧ ((∀ policy, b.mode ≠ .upsert policy) → (b.frame d columns).tail = "")
      ∧ (∀ policy, b.mode = .upsert policy →
          (b.frame d columns).tail = " " ++ d.renderUpsert b.conflictColumns policy)
      ∧ (∀ chunk ∈ c.chunks, chunk.Writes (b.frame d columns) b.rows columns.length
          ∧ chunk.statement.params.length ≤ maxParams.toNat)
      ∧ c.chunks.flatMap (·.statement.params) = b.rows.flatMap Row.values
      ∧ Checked.div maxParams c.plan.columns = some c.plan.rowsPerChunk
      ∧ Checked.divCeil c.plan.totalRows c.plan.rowsPerChunk = some c.plan.chunkCount
      ∧ ∀ n, (c.advance n).checkedNext = some (c.advance n).next?
          ∧ (c.advance n).checkedRemaining = some (c.advance n).remaining := by
  have hat := compile_at hmem h
  obtain ⟨columns, hcolumns, _⟩ := compile_eq_ok h
  obtain ⟨hplain, hmerging⟩ := tail_frame b d columns
  refine ⟨columns, hcolumns, ?_, ?_, tiles_chunks hmem h, ranges?_eq_chunks hmem h, rfl, hplain,
    hmerging, ?_, flatMap_params hmem h, checkedDiv_eq h,
    Checked.divCeil_eq hat.inMemory.step_pos, ?_⟩
  · rw [chunks_eq hmem h]
    exact compile_yields hmem h
  · rw [chunks_eq hmem h, List.length_map, List.length_range]
  · intro chunk hchunk
    exact ⟨compile_writes hmem h hcolumns chunk hchunk, length_params_le hmem h chunk hchunk⟩
  · intro n
    obtain ⟨j, hj⟩ := hat.advance (n := n)
    exact ⟨hj.checkedNext_eq, hj.checkedRemaining_eq⟩

/-- Three rows of two columns. -/
def threeRows : BatchInsert where
  table := "t"
  rows := [.ofPairs [("a", .int 1), ("b", .text "x")], .ofPairs [("a", .int 2), ("b", .null)],
    .ofPairs [("a", .int 3), ("b", .text "?")]]

/-- With five parameters a statement, two rows go into the first chunk and one into
the second. -/
theorem compile_partition_threeRows :
    RowsInMemory threeRows.rows ∧ ∃ c, threeRows.compile .sqlite 5 = .ok c ∧ c.Yields c.chunks
      ∧ c.chunks.length = 2 ∧ Tiles 0 3 (c.chunks.map Chunk.range)
      ∧ c.chunks.map (·.statement.params.length) = [4, 2] := by
  have hmem : RowsInMemory threeRows.rows := ⟨by decide, by decide +kernel⟩
  have hcompile : threeRows.compile .sqlite 5
      = .ok ⟨threeRows.frame .sqlite ["a", "b"], ⟨3, 2, 2⟩, 0, threeRows.rows⟩ := by rfl
  obtain ⟨_, _, hyields, hlength, htiles, _⟩ :=
    compile_partition threeRows .sqlite 5 _ hmem hcompile
  refine ⟨hmem, _, hcompile, hyields, hlength.trans ?_, htiles, ?_⟩
  · decide +kernel
  · rfl

end BatchInsert

end BoundSql
