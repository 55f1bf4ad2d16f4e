import BoundSql.Proofs.Batch.Insert
import BoundSql.Proofs.Session.Transaction
import BoundSql.Proofs.Statement
import BoundSql.Proofs.Statement.Conditional
import BoundSql.Schema.Table

/-!
# Compiled statements

Every statement that is not written by the caller is compiled from some texts of the caller,
the names of tables and columns, types, options and raw pieces of SQL.  `Compiled` lists the
ways to do so, and the texts for each.  If there are no question marks in the texts, then the
statement has one placeholder for each parameter (`Compiled.count_eq`).
-/

namespace BoundSql

open Text (Unmarked unmarked_append unmarked_intercalate)

theorem Text.unmarked_join : ∀ {ss : List String}, (∀ s ∈ ss, Unmarked s) →
    Unmarked (String.join ss)
  | [], _ => by
      rw [String.join_nil]
      decide
  | s :: ss, h => by
      rw [String.join_cons, unmarked_append]
      exact ⟨h s List.mem_cons_self, unmarked_join fun t ht => h t (List.mem_cons_of_mem s ht)⟩

/-! ## Chunks -/

namespace Dialect

theorem unmarked_insertedValue (d : Dialect) {column : String} (h : Unmarked column) :
    Unmarked (d.insertedValue column) := by
  cases d with
  | mysql =>
      simp only [insertedValue, unmarked_append]
      exact ⟨⟨by decide, unmarked_quote _ h⟩, by decide⟩
  | sqlite =>
      simp only [insertedValue, unmarked_append]
      exact ⟨by decide, unmarked_quote _ h⟩

theorem unmarked_renderUpsert (d : Dialect) {conflict : List String} {policy : UpsertPolicy}
    (hconflict : ∀ t ∈ conflict, Unmarked t) (hcolumns : ∀ t ∈ policy.columns, Unmarked t) :
    Unmarked (d.renderUpsert conflict policy) := by
  rw [UpsertPolicy.columns, List.forall_mem_append] at hcolumns
  rw [renderUpsert, upsertClause, unmarked_append]
  refine ⟨d.unmarked_upsertHead hconflict, unmarked_intercalate (by decide) ?_⟩
  rw [List.forall_mem_append, List.forall_mem_map, List.forall_mem_map]
  constructor
  · intro column hcolumn
    have hname : Unmarked column := hcolumns.1 column hcolumn
    simp only [updateAssignment, unmarked_append]
    exact ⟨⟨d.unmarked_quote hname, by decide⟩, d.unmarked_insertedValue hname⟩
  · intro column hcolumn
    have hname : Unmarked column := hcolumns.2 column hcolumn
    simp only [incrementAssignment, unmarked_append]
    exact ⟨⟨⟨⟨d.unmarked_quote hname, by decide⟩, d.unmarked_quote hname⟩, by decide⟩,
      d.unmarked_insertedValue hname⟩

end Dialect

namespace BatchInsert

/-- What a batch takes on trust. -/
def trusted (b : BatchInsert) : List String :=
  b.table :: b.rows.flatMap Row.columns ++ match b.mode with
    | .upsert policy => b.conflictColumns ++ policy.columns
    | .insert | .insertIgnore => []

theorem mem_trusted {b : BatchInsert} {columns : List String} (hcolumns : b.columns = .ok columns)
    {column : String} (h : column ∈ columns) : column ∈ b.trusted := by
  obtain ⟨hrows, _, hshape⟩ := columns_eq_ok hcolumns
  obtain ⟨row, hrow⟩ := List.exists_mem_of_ne_nil _ hrows
  have hmem : column ∈ b.rows.flatMap Row.columns :=
    List.mem_flatMap.mpr ⟨row, hrow, hshape row hrow ▸ h⟩
  exact List.mem_append_left _ (List.mem_cons_of_mem _ hmem)

/-- The texts around the values of a batch. -/
theorem unmarked_frame {b : BatchInsert} (d : Dialect) {columns : List String}
    (hcolumns : b.columns = .ok columns) (h : ∀ t ∈ b.trusted, Unmarked t) :
    Unmarked (b.frame d columns).head ∧ Unmarked (b.frame d columns).tail := by
  have hcolumn : ∀ t ∈ columns, Unmarked t := fun t ht => h t (mem_trusted hcolumns ht)
  rw [trusted, List.cons_append, List.forall_mem_cons, List.forall_mem_append] at h
  obtain ⟨htable, _, hmode⟩ := h
  constructor
  · simp only [frame, Insert.head, unmarked_append]
    exact ⟨⟨⟨⟨⟨d.unmarked_verb _, by decide⟩, d.unmarked_quote htable⟩, by decide⟩,
      d.unmarked_quoteAll hcolumn⟩, by decide⟩
  · have hempty : Unmarked "" := by decide
    rw [frame]
    cases hb : b.mode with
    | insert => exact hempty
    | insertIgnore => exact hempty
    | upsert policy =>
        rw [hb, List.forall_mem_append] at hmode
        exact unmarked_append.mpr ⟨by decide, d.unmarked_renderUpsert hmode.1 hmode.2⟩

/-- A chunk has a placeholder for each value of its rows. -/
theorem count_chunk {b : BatchInsert} {d : Dialect} {maxParams : UInt64} {c : ChunkCursor}
    {chunk : Chunk} (hcompile : b.compile d maxParams = .ok c) (hchunk : chunk ∈ c.chunks)
    (h : ∀ t ∈ b.trusted, Unmarked t) :
    chunk.statement.sql.toList.count '?' = chunk.statement.params.length := by
  obtain ⟨columns, hcolumns, _, _, rfl⟩ := compile_eq_ok hcompile
  obtain ⟨rows, hstatement⟩ := ChunkCursor.statement_eq hchunk
  obtain ⟨hhead, htail⟩ := unmarked_frame d hcolumns h
  rw [hstatement]
  refine Fragment.count_sql ?_
  rw [ChunkFrame.fragment, Fragment.plain_append, Fragment.plain_append]
  refine ⟨⟨Fragment.plain_text.mpr hhead, Fragment.plain_joined (by decide) ?_⟩,
    Fragment.plain_text.mpr htail⟩
  rw [List.forall_mem_map]
  exact fun row _ => Fragment.plain_tuple row.values

end BatchInsert

/-! ## Table definitions -/

namespace ColumnSpec

theorem unmarked_compile {c : ColumnSpec} (d : Dialect) (hname : Unmarked c.name)
    (htype : Unmarked c.type) : Unmarked (c.compile d) := by
  have hword : ∀ constraint, Unmarked (d.keyword constraint) := fun constraint => by
    cases constraint <;> cases d <;> decide
  have hdeclared : Unmarked (if c.autoIncrement then d.autoIncrementType c.type else c.type) := by
    by_cases hauto : c.autoIncrement
    · rw [if_pos hauto]
      cases d with
      | mysql => exact htype
      | sqlite =>
          show Unmarked "INTEGER"
          decide
    · rwa [if_neg hauto]
  refine unmarked_intercalate (by decide) ?_
  rw [List.forall_mem_append, Dialect.columnConstraints, List.forall_mem_map]
  refine ⟨?_, fun constraint _ => hword constraint⟩
  rw [List.forall_mem_cons, List.forall_mem_singleton]
  exact ⟨d.unmarked_quote hname, hdeclared⟩

end ColumnSpec

namespace TableSchema

/-- What a table definition takes on trust. -/
def trusted (t : TableSchema) : List String :=
  t.name :: t.columns.flatMap (fun c => [c.name, c.type])
    ++ (t.draft.engine.toList ++ t.draft.collation.toList)

theorem mem_trusted {t : TableSchema} {c : ColumnSpec} (h : c ∈ t.columns) :
    c.name ∈ t.trusted ∧ c.type ∈ t.trusted := by
  have hspec : ∀ s ∈ [c.name, c.type], s ∈ t.trusted := fun s hs =>
    List.mem_append_left _ (List.mem_cons_of_mem _ (List.mem_flatMap.mpr ⟨c, h, hs⟩))
  rw [List.forall_mem_cons, List.forall_mem_singleton] at hspec
  exact hspec

theorem unmarked_options {t : TableSchema} (d : Dialect)
    (h : ∀ s ∈ t.draft.engine.toList ++ t.draft.collation.toList, Unmarked s) :
    ∀ s ∈ t.options d, Unmarked s := by
  rw [List.forall_mem_append] at h
  cases d with
  | sqlite => exact fun s hs => absurd hs List.not_mem_nil
  | mysql =>
      rw [options, Dialect.tableOptions, List.forall_mem_append, Option.toList_map, Option.toList_map,
        List.forall_mem_map, List.forall_mem_map]
      exact ⟨fun s hs => unmarked_append.mpr ⟨by decide, h.1 s hs⟩,
        fun s hs => unmarked_append.mpr ⟨by decide, h.2 s hs⟩⟩

theorem unmarked_compile {t : TableSchema} (d : Dialect) (h : ∀ s ∈ t.trusted, Unmarked s) :
    Unmarked (t.compile d) := by
  have hcolumn : ∀ c ∈ t.columns, Unmarked (c.compile d) := fun c hc =>
    c.unmarked_compile d (h _ (mem_trusted hc).1) (h _ (mem_trusted hc).2)
  rw [trusted, List.cons_append, List.forall_mem_cons, List.forall_mem_append] at h
  obtain ⟨hname, _, hoptions⟩ := h
  have hexisting : Unmarked (if t.draft.ifNotExists then "IF NOT EXISTS " else "") := by
    cases t.draft.ifNotExists <;> decide
  have hdefinitions : Unmarked (String.intercalate ", " (t.columns.map (·.compile d))) := by
    refine unmarked_intercalate (by decide) ?_
    rw [List.forall_mem_map]
    exact hcolumn
  have htail : Unmarked (String.join ((t.options d).map (" " ++ ·))) := by
    refine Text.unmarked_join ?_
    rw [List.forall_mem_map]
    exact fun s hs => unmarked_append.mpr ⟨by decide, unmarked_options d hoptions s hs⟩
  have hhead : Unmarked ("CREATE TABLE " ++ (if t.draft.ifNotExists then "IF NOT EXISTS " else "")
      ++ d.quote t.name ++ " (") := by
    simp only [unmarked_append]
    exact ⟨⟨⟨by decide, hexisting⟩, d.unmarked_quote hname⟩, by decide⟩
  have hclose : Unmarked ")" := by decide
  exact unmarked_append.mpr
    ⟨unmarked_append.mpr ⟨unmarked_append.mpr ⟨hhead, hdefinitions⟩, hclose⟩, htail⟩

end TableSchema

/-! ## All statements -/

/-- The ways to compile a statement.  Each uses some texts of the caller. -/
inductive Compiled (d : Dialect) : List String → Statement → Prop
  | build {b : Builder} {statement : Statement} :
      b.build d = .ok statement → Compiled d b.trusted statement
  -- the columns are not given by the caller
  | count {table : String} {filter : Filter} {statement : Statement} :
      (((Select.ofTable table).withColumnsRaw "COUNT(*)").filtering fun _ => filter).build
        = .ok statement →
      Compiled d (table :: filter.trusted) statement
  | aggregate {table function column : String} {filter : Filter} {statement : Statement} :
      Unmarked function →
      (((Select.ofTable table).withColumnsRaw (function ++ "(" ++ column ++ ")")).filtering
        fun _ => filter).build = .ok statement →
      Compiled d (table :: column :: filter.trusted) statement
  | chunk {b : BatchInsert} {maxParams : UInt64} {c : ChunkCursor} {chunk : Chunk} :
      b.compile d maxParams = .ok c → chunk ∈ c.chunks → Compiled d b.trusted chunk.statement
  -- the table is bound
  | question {table : String} {statement : Statement} :
      d.conflictColumnsQuery table = some statement → Compiled d [] statement
  | creation (schema : TableSchema) : Compiled d schema.trusted (.plain (schema.compile d))
  | control {statement : Statement} :
      statement ∈ [Statement.begin, .commit, .rollback] → Compiled d [] statement

/-- A query with raw columns has a placeholder for each value of its filter. -/
theorem Select.count_columnsRaw {table columns : String} {filter : Filter} {statement : Statement}
    (hcolumns : Unmarked columns) (htable : Unmarked table)
    (hfilter : ∀ t ∈ filter.trusted, Unmarked t)
    (h : (((ofTable table).withColumnsRaw columns).filtering fun _ => filter).build
      = .ok statement) :
    statement.sql.toList.count '?' = statement.params.length := by
  refine (Builder.build_binds (.select _) .sqlite statement ?_ h).2.2.1
  show ∀ t ∈ [columns] ++ [table] ++ filter.trusted ++ [], Unmarked t
  simpa [hcolumns, htable] using hfilter

/-- A statement has as many placeholders as parameters, if there are no question marks in the
texts that it is compiled from. -/
theorem Compiled.count_eq {d : Dialect} {texts : List String} {statement : Statement}
    (h : Compiled d texts statement) (hunmarked : ∀ t ∈ texts, Unmarked t) :
    statement.sql.toList.count '?' = statement.params.length := by
  cases h with
  | @build b statement hbuild => exact (b.build_binds d statement hunmarked hbuild).2.2.1
  | count hbuild =>
      obtain ⟨htable, hfilter⟩ := List.forall_mem_cons.mp hunmarked
      exact Select.count_columnsRaw (by decide) htable hfilter hbuild
  | aggregate hfunction hbuild =>
      obtain ⟨htable, hrest⟩ := List.forall_mem_cons.mp hunmarked
      obtain ⟨hcolumn, hfilter⟩ := List.forall_mem_cons.mp hrest
      refine Select.count_columnsRaw ?_ htable hfilter hbuild
      simp only [unmarked_append]
      exact ⟨⟨⟨hfunction, by decide⟩, hcolumn⟩, by decide⟩
  | chunk hcompile hchunk => exact BatchInsert.count_chunk hcompile hchunk hunmarked
  | question hquery =>
      cases d with
      | mysql => cases hquery
      | sqlite =>
          cases hquery
          -- one piece after the other, since no proof should decode the text from its bytes
          show List.count '?' (String.toList (_ ++ _ ++ _ ++ _)) = 1
          rw [String.toList_append, String.toList_append, String.toList_append,
            String.toList_ofList, String.toList_ofList, String.toList_ofList, String.toList_ofList]
          decide
  | creation schema => exact List.count_eq_zero.mpr (schema.unmarked_compile d hunmarked)
  | control hstatement =>
      have hcontrol : ∀ s ∈ [Statement.begin, .commit, .rollback],
          s.sql.toList.count '?' = s.params.length := by decide
      exact hcontrol _ hstatement

end BoundSql
