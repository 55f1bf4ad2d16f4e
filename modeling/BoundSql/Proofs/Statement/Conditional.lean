import BoundSql.Driver.Connection
import BoundSql.Proofs.Batch.Insert
import BoundSql.Proofs.Statement

/-!
# Writes with a condition

A statement *changes rows* if its text begins with `UPDATE` or `DELETE`, in any case and
behind blanks.  An update or a delete whose filter has predicates is a *conditional write*:
its text ends with the condition of the filter, and its parameters with those of the
condition.  The texts of queries, inserts and chunks begin with other letters, and so they
change no rows.
-/

namespace BoundSql

/-! ## First letters -/

namespace Text

/-- The first character of a text begins neither `UPDATE` nor `DELETE`, and is no blank. -/
def beginsOtherwise (s : String) : Bool :=
  match s.toList with
  | [] => false
  | c :: _ => !isBlank c && c.toLower != 'u' && c.toLower != 'd'

theorem beginsOtherwise_append {s : String} (t : String) (h : beginsOtherwise s) :
    beginsOtherwise (s ++ t) := by
  rw [beginsOtherwise] at h ⊢
  rw [String.toList_append]
  cases hchars : s.toList with
  | nil =>
      rw [hchars] at h
      cases h
  | cons c cs =>
      rw [hchars] at h
      exact h

end Text

namespace Statement

/-- The statement changes rows that are there, going by its first letters behind blanks. -/
def ChangesRows (statement : Statement) : Prop :=
  beginsWith "update" (Text.trimStart statement.sql).toList
    ∨ beginsWith "delete" (Text.trimStart statement.sql).toList

theorem not_changesRows {statement : Statement} (h : Text.beginsOtherwise statement.sql) :
    ¬ statement.ChangesRows := by
  rw [Text.beginsOtherwise] at h
  cases hchars : statement.sql.toList with
  | nil =>
      rw [hchars] at h
      cases h
  | cons c cs =>
      simp only [hchars, Bool.and_eq_true, Bool.not_eq_true', bne_iff_ne, ne_eq] at h
      obtain ⟨⟨hblank, hu⟩, hd⟩ := h
      have htrim : (Text.trimStart statement.sql).toList = c :: cs := by
        rw [Text.trimStart, String.toList_ofList, hchars,
          List.dropWhile_cons_of_neg (by rw [hblank]; exact Bool.false_ne_true)]
      rw [ChangesRows, htrim]
      rintro (h | h)
      · exact hu (List.cons_prefix_cons.mp (List.isPrefixOf_iff_prefix.mp h)).1.symm
      · exact hd (List.cons_prefix_cons.mp (List.isPrefixOf_iff_prefix.mp h)).1.symm

end Statement

/-! ## Statements that change no rows -/

namespace Builder

/-- The text and the parameters of a statement that compiles. -/
theorem build_eq_ok {b : Builder} {d : Dialect} {statement : Statement}
    (h : b.build d = .ok statement) :
    statement.sql = b.spelled d (fun _ => Value.placeholder) ∧ statement.params = b.values := by
  obtain ⟨f, rfl, hspells⟩ := spells_build h
  exact ⟨f.sql_eq_written.trans (hspells.written_eq _), hspells.params_eq⟩

end Builder

theorem InsertVerb.beginsOtherwise_render (verb : InsertVerb) (d : Dialect) :
    Text.beginsOtherwise (verb.render d) := by
  cases verb <;> cases d <;> decide

theorem Select.not_changesRows {s : Select} {statement : Statement}
    (h : s.build = .ok statement) : ¬ statement.ChangesRows := by
  have hsql : statement.sql = s.spelled fun _ => Value.placeholder :=
    (Builder.build_eq_ok (b := .select s) (d := .sqlite) h).1
  simp only [spelled, String.append_assoc] at hsql
  exact Statement.not_changesRows (hsql ▸ Text.beginsOtherwise_append _ (by decide))

theorem Insert.not_changesRows {i : Insert} {d : Dialect} {statement : Statement}
    (h : i.build d = .ok statement) : ¬ statement.ChangesRows := by
  have hsql : statement.sql = i.spelled d fun _ => Value.placeholder :=
    (Builder.build_eq_ok (b := .insert i) h).1
  simp only [spelled, String.append_assoc] at hsql
  exact Statement.not_changesRows
    (hsql ▸ Text.beginsOtherwise_append _ (i.verb.beginsOtherwise_render d))

theorem Dialect.not_changesRows {d : Dialect} {table : String} {statement : Statement}
    (h : d.conflictColumnsQuery table = some statement) : ¬ statement.ChangesRows := by
  cases d with
  | mysql => cases h
  | sqlite =>
      cases h
      refine Statement.not_changesRows (Text.beginsOtherwise_append _
        (Text.beginsOtherwise_append _ (Text.beginsOtherwise_append _ ?_)))
      decide +kernel

/-- The statement of a chunk is that of some rows in the frame of the batch. -/
theorem ChunkCursor.statement_eq {chunk : Chunk} : ∀ {n : Nat} {c : ChunkCursor},
    chunk ∈ (taken n c).map Prod.snd → ∃ rows, chunk.statement = (c.frame.fragment rows).statement
  | 0, _, h => absurd h List.not_mem_nil
  | n + 1, c, h => by
      rw [taken] at h
      by_cases hend : c.plan.totalRows ≤ c.position
      · rw [next?, if_pos hend] at h
        exact absurd h List.not_mem_nil
      · rw [next?, if_neg hend] at h
        cases List.mem_cons.mp h with
        | inl hfirst => exact ⟨_, congrArg Chunk.statement hfirst⟩
        | inr hrest =>
            obtain ⟨rows, hrows⟩ := statement_eq hrest
            exact ⟨rows, hrows⟩

theorem BatchInsert.not_changesRows {b : BatchInsert} {d : Dialect} {maxParams : UInt64}
    {c : ChunkCursor} (h : b.compile d maxParams = .ok c) {chunk : Chunk} (hchunk : chunk ∈ c.chunks) :
    ¬ chunk.statement.ChangesRows := by
  obtain ⟨columns, _, _, _, rfl⟩ := compile_eq_ok h
  obtain ⟨rows, hstatement⟩ := ChunkCursor.statement_eq hchunk
  have hsql : chunk.statement.sql = ((b.frame d columns).fragment rows).sql :=
    congrArg Statement.sql hstatement
  rw [ChunkFrame.fragment, Fragment.sql_eq_written, Fragment.written_append,
    Fragment.written_append, Fragment.written_text, frame, Insert.head] at hsql
  simp only [String.append_assoc] at hsql
  exact Statement.not_changesRows
    (hsql ▸ Text.beginsOtherwise_append _ (b.mode.verb.beginsOtherwise_render d))

/-! ## Conditional writes -/

/-- A write of the rows of a table that a filter selects.  The filter has predicates, and
its parameters come last. -/
inductive ConditionalWrite (d : Dialect) (table : String) (filter : Filter) : Statement → Prop
  | update {assignments : List Assignment} {condition : Fragment} :
      assignments ≠ [] → filter.isEmpty = false → filter.compile = .ok (some condition) →
      ConditionalWrite d table filter
        ⟨"UPDATE " ++ d.quote table ++ " SET "
            ++ String.intercalate ", " (assignments.map fun a => a.spelled d fun _ => "?")
            ++ " WHERE " ++ condition.sql,
          assignments.map Assignment.value ++ condition.params⟩
  | delete {condition : Fragment} :
      filter.isEmpty = false → filter.compile = .ok (some condition) →
      ConditionalWrite d table filter
        ⟨"DELETE FROM " ++ d.quote table ++ " WHERE " ++ condition.sql, condition.params⟩

namespace Filter

/-- A filter with predicates has a condition, if it compiles. -/
theorem compile_of_clause {f : Filter} {g : Fragment} (hempty : f.isEmpty = false)
    (h : f.clause = .ok g) : ∃ condition, f.compile = .ok (some condition)
      ∧ f.spelled (fun _ => Value.placeholder) = " WHERE " ++ condition.sql
      ∧ f.values = condition.params := by
  have hspells := spells_clause h
  obtain ⟨condition, hcompile, h⟩ := bind_eq_ok.mp h
  cases condition with
  | none =>
      have hnone := compile_eq_ok hcompile
      rw [hempty, if_neg Bool.false_ne_true] at hnone
      by_cases halternatives : f.alternatives.isEmpty
      · rw [if_pos halternatives] at hnone
        cases hnone
      · rw [if_neg halternatives] at hnone
        cases hnone
  | some condition =>
      cases h
      refine ⟨condition, hcompile, ?_, ?_⟩
      · rw [← hspells.written_eq, Fragment.written_append, Fragment.written_text,
          Fragment.sql_eq_written]
      · rw [← hspells.params_eq, Fragment.params_append, Fragment.params_text, List.nil_append]

end Filter

theorem Update.conditionalWrite {u : Update} {d : Dialect} {statement : Statement}
    (hempty : u.filter.isEmpty = false) (h : u.build d = .ok statement) :
    ConditionalWrite d u.table u.filter statement := by
  obtain ⟨hsql, hparams⟩ := Builder.build_eq_ok (b := .update u) h
  obtain ⟨f, hf, _⟩ := map_eq_ok.mp h
  rw [fragment_eq, ite_error_eq_ok, ite_error_eq_ok] at hf
  obtain ⟨_, hassignments, hf⟩ := hf
  obtain ⟨clause, hclause, _⟩ := bind_eq_ok.mp hf
  obtain ⟨condition, hcompile, hspelled, hvalues⟩ := Filter.compile_of_clause hempty hclause
  have hstatement : statement = ⟨_, _⟩ := congr (congrArg Statement.mk hsql) hparams
  rw [hstatement, Builder.spelled, Builder.values, spelled, values, hspelled, hvalues,
    ← String.append_assoc]
  exact .update (mt List.isEmpty_iff.mpr hassignments) hempty hcompile

theorem Delete.conditionalWrite {x : Delete} {d : Dialect} {statement : Statement}
    (hempty : x.filter.isEmpty = false) (h : x.build d = .ok statement) :
    ConditionalWrite d x.table x.filter statement := by
  obtain ⟨hsql, hparams⟩ := Builder.build_eq_ok (b := .delete x) h
  obtain ⟨f, hf, _⟩ := map_eq_ok.mp h
  rw [fragment_eq, ite_error_eq_ok] at hf
  obtain ⟨clause, hclause, _⟩ := bind_eq_ok.mp hf.2
  obtain ⟨condition, hcompile, hspelled, hvalues⟩ := Filter.compile_of_clause hempty hclause
  have hstatement : statement = ⟨_, _⟩ := congr (congrArg Statement.mk hsql) hparams
  rw [hstatement, Builder.spelled, Builder.values, spelled, hspelled, hvalues,
    ← String.append_assoc]
  exact .delete hempty hcompile

end BoundSql
