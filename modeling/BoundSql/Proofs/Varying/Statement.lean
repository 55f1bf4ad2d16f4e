import BoundSql.Proofs.Statement
import BoundSql.Proofs.Varying.Filter
import BoundSql.Proofs.Varying.Row

/-!
# Statements with values that vary

A statement is made by calls on a query, an insert, an update or a delete (`Draft`).  In
every run the same calls are made, with other values.  One call preserves that what is made
is the same in every run, but for the values that vary, and therefore so does a sequence of
calls.  What is made in this way is compiled alike (`Draft.alike_build`).
-/

namespace BoundSql

variable {ι : Type} {V : Varying ι → Prop} {d : Dialect}

/-! ## Queries -/

/-- A call that changes a query. -/
inductive SelectCall (ι : Type) where
  | filter (call : FilterCall ι)
  | columns (names : List String)
  | columnsRaw (sql : String)
  | groupBy (names : List String)
  | orderBy (term : String)
  | limit (n : UInt64)
  | offset (n : UInt64)
  | collate (collation : String)

namespace SelectCall

/-- What a run makes of the query. -/
def apply (i : ι) (s : Select) : SelectCall ι → Select
  | filter call => s.filtering fun f => call.apply i f
  | columns names => s.withColumns names
  | columnsRaw sql => s.withColumnsRaw sql
  | groupBy names => s.groupBy names
  | orderBy term => s.orderBy term
  | limit n => s.take n
  | offset n => s.skip n
  | collate collation => s.collate collation

/-- The values of a call. -/
def values : SelectCall ι → List (Varying ι)
  | filter call => call.values
  | _ => []

end SelectCall

namespace Select

variable {s : ι → Select}

/-- The query is the same in every run, but for values that vary. -/
def Steady (V : Varying ι → Prop) (s : ι → Select) : Prop :=
  ∃ (common : Select) (f : ι → Filter), Filter.Steady V f
    ∧ s = fun i => { common with filter := f i }

theorem steady_apply (hs : Steady V s) {call : SelectCall ι} (hcall : ∀ v ∈ call.values, V v) :
    Steady V fun i => call.apply i (s i) := by
  obtain ⟨common, f, hf, rfl⟩ := hs
  cases call with
  | filter call => exact ⟨common, _, FilterCall.steady_apply hf hcall, rfl⟩
  | columns names => exact ⟨common.withColumns names, f, hf, rfl⟩
  | columnsRaw sql => exact ⟨common.withColumnsRaw sql, f, hf, rfl⟩
  | groupBy names => exact ⟨common.groupBy names, f, hf, rfl⟩
  | orderBy term => exact ⟨common.orderBy term, f, hf, rfl⟩
  | limit n => exact ⟨common.take n, f, hf, rfl⟩
  | offset n => exact ⟨common.skip n, f, hf, rfl⟩
  | collate collation => exact ⟨common.collate collation, f, hf, rfl⟩

theorem alike_fragment (hs : Steady V s) : Alike (Fragment.Steady V) fun i => (s i).fragment := by
  obtain ⟨common, f, hf, rfl⟩ := hs
  simp only [fragment_eq]
  by_cases hblank : Text.isBlankText common.table
  · simp only [if_pos hblank]
    exact .error _
  · simp only [if_neg hblank]
    refine (Filter.alike_clause hf).bind fun clause hclause => ?_
    exact .ok (((Fragment.steady_text _).append hclause).append (Fragment.steady_text common.tail))

end Select

/-! ## Inserts -/

/-- A call that changes an insert. -/
inductive InsertCall (ι : Type) where
  | ignore
  | replace
  | onConflictUpdate (conflict : List String) (update : RowDraft ι)

namespace InsertCall

/-- What a run makes of the insert. -/
def apply (i : ι) (x : Insert) : InsertCall ι → Insert
  | ignore => x.ignore
  | replace => x.replace
  | onConflictUpdate conflict update => x.onConflictUpdate conflict (update.row i)

/-- The values of a call. -/
def values : InsertCall ι → List (Varying ι)
  | onConflictUpdate _ update => update.values
  | _ => []

end InsertCall

namespace Insert

variable {x : ι → Insert}

/-- The insert is the same in every run, but for values that vary. -/
def Steady (V : Varying ι → Prop) (x : ι → Insert) : Prop :=
  ∃ (table : String) (verb : InsertVerb) (row : ι → Row)
    (onConflict : Option (List String × (ι → Row))),
    Row.Steady V row ∧ (∀ e ∈ onConflict, Row.Steady V e.2)
      ∧ x = fun i => ⟨table, row i, verb, onConflict.map fun e => (e.1, e.2 i)⟩

theorem steady_apply (hx : Steady V x) {call : InsertCall ι} (hcall : ∀ v ∈ call.values, V v) :
    Steady V fun i => call.apply i (x i) := by
  obtain ⟨table, verb, row, onConflict, hrow, hconflict, rfl⟩ := hx
  cases call with
  | ignore => exact ⟨table, .insertIgnore, row, onConflict, hrow, hconflict, rfl⟩
  | replace => exact ⟨table, .replace, row, onConflict, hrow, hconflict, rfl⟩
  | onConflictUpdate conflict update =>
      refine ⟨table, verb, row, some (conflict, update.row), hrow, ?_, rfl⟩
      intro e he
      cases he
      exact Row.steady_row hcall

theorem steady_assignment (column : String) {v : Varying ι} (hv : V v) :
    Fragment.Steady V fun i => assignment d (column, v.value i) :=
  (Fragment.steady_text (d.quote column ++ " = ")).append (Fragment.steady_bound hv)

theorem alike_conflictClause {onConflict : Option (List String × (ι → Row))}
    (h : ∀ e ∈ onConflict, Row.Steady V e.2) :
    Alike (Fragment.Steady V) fun i =>
      conflictClause d (onConflict.map fun e => (e.1, e.2 i)) := by
  cases onConflict with
  | none => exact .ok Fragment.steady_nil
  | some e =>
      obtain ⟨conflict, update⟩ := e
      have hupdate : Row.Steady V update := h _ rfl
      have hclause : ∀ i, conflictClause d (some (conflict, update i))
          = if (update i).columns.isEmpty then .error (.emptyData .update)
            else .ok (.text (" " ++ d.upsertHead conflict)
              ++ .joined ", " ((update i).entries.map (assignment d))) := by
        intro i
        rw [← Row.isEmpty_eq]
        rfl
      obtain ⟨columns, hcolumns⟩ := hupdate.columns_eq
      refine .of_eq hclause ?_
      simp only [hcolumns]
      by_cases hempty : columns.isEmpty
      · simp only [if_pos hempty]
        exact .error _
      · simp only [if_neg hempty]
        refine .ok ((Fragment.steady_text _).append (Fragment.steady_joined ", " ?_))
        exact hupdate.each_entry fun column v hv => steady_assignment column hv

theorem alike_fragment (hx : Steady V x) :
    Alike (Fragment.Steady V) fun i => (x i).fragment d := by
  obtain ⟨table, verb, row, onConflict, hrow, hconflict, rfl⟩ := hx
  obtain ⟨columns, hcolumns⟩ := hrow.columns_eq
  simp only [fragment_eq, Row.isEmpty_eq, hcolumns]
  by_cases hblank : Text.isBlankText table
  · simp only [if_pos hblank]
    exact .error _
  · simp only [if_neg hblank]
    by_cases hempty : columns.isEmpty
    · simp only [if_pos hempty]
      exact .error _
    · simp only [if_neg hempty]
      refine (alike_conflictClause hconflict).bind fun clause hclause => ?_
      exact .ok (((Fragment.steady_text _).append hrow.steady_tuple).append hclause)

end Insert

/-! ## Updates -/

/-- A call that changes an update. -/
inductive UpdateCall (ι : Type) where
  | set (column : String) (v : Varying ι)
  | setRow (row : RowDraft ι)
  | increment (column : String) (amount : Varying ι)
  | filter (call : FilterCall ι)

namespace UpdateCall

/-- What a run makes of the update. -/
def apply (i : ι) (u : Update) : UpdateCall ι → Update
  | set column v => u.set column (v.value i)
  | setRow row => u.setRow (row.row i)
  | increment column amount => u.increment column (amount.value i)
  | filter call => u.filtering fun f => call.apply i f

/-- The values of a call. -/
def values : UpdateCall ι → List (Varying ι)
  | set _ v => [v]
  | setRow row => row.values
  | increment _ amount => [amount]
  | filter call => call.values

end UpdateCall

/-- The assignment is the same in every run, but for a value that varies. -/
inductive Assignment.Steady (V : Varying ι → Prop) : (ι → Assignment) → Prop
  | set (column : String) {v : Varying ι} : V v → Steady V fun i => .set column (v.value i)
  | increment (column : String) {v : Varying ι} :
      V v → Steady V fun i => .increment column (v.value i)

theorem Assignment.Steady.steady_render {a : ι → Assignment} (ha : Assignment.Steady V a) :
    Fragment.Steady V fun i => (a i).render d := by
  cases ha with
  | set column hv => exact (Fragment.steady_text _).append (Fragment.steady_bound hv)
  | increment column hv => exact (Fragment.steady_text _).append (Fragment.steady_bound hv)

namespace Update

variable {u : ι → Update}

/-- The update is the same in every run, but for values that vary. -/
def Steady (V : Varying ι → Prop) (u : ι → Update) : Prop :=
  ∃ (table : String) (assignments : ι → List Assignment) (f : ι → Filter),
    Each (Assignment.Steady V) assignments ∧ Filter.Steady V f
      ∧ u = fun i => ⟨table, assignments i, f i⟩

theorem steady_apply (hu : Steady V u) {call : UpdateCall ι} (hcall : ∀ v ∈ call.values, V v) :
    Steady V fun i => call.apply i (u i) := by
  obtain ⟨table, assignments, f, hassignments, hf, rfl⟩ := hu
  cases call with
  | set column v =>
      have hset : Assignment.Steady V fun i => .set column (v.value i) :=
        .set column (hcall v List.mem_cons_self)
      exact ⟨table, _, f, hassignments.append (Each.nil.cons hset), hf, rfl⟩
  | setRow row =>
      have hset : Each (Assignment.Steady V) fun i =>
          (row.row i).entries.map fun e => .set e.1 e.2 :=
        (Row.steady_row hcall).each_entry fun column v hv => .set column hv
      exact ⟨table, _, f, hassignments.append hset, hf, rfl⟩
  | increment column amount =>
      have hincrement : Assignment.Steady V fun i => .increment column (amount.value i) :=
        .increment column (hcall amount List.mem_cons_self)
      exact ⟨table, _, f, hassignments.append (Each.nil.cons hincrement), hf, rfl⟩
  | filter call =>
      exact ⟨table, assignments, _, hassignments, FilterCall.steady_apply hf hcall, rfl⟩

theorem alike_fragment (hu : Steady V u) :
    Alike (Fragment.Steady V) fun i => (u i).fragment d := by
  obtain ⟨table, assignments, f, hassignments, hf, rfl⟩ := hu
  have hrendered : Each (Fragment.Steady V) fun i => (assignments i).map (Assignment.render d) :=
    hassignments.map fun _ ha => ha.steady_render
  obtain ⟨members, _, rfl⟩ := hassignments
  simp only [fragment_eq, List.isEmpty_map]
  by_cases hblank : Text.isBlankText table
  · simp only [if_pos hblank]
    exact .error _
  · simp only [if_neg hblank]
    by_cases hnone : members.isEmpty
    · simp only [if_pos hnone]
      exact .error _
    · simp only [if_neg hnone]
      refine (Filter.alike_clause hf).bind fun clause hclause => ?_
      exact .ok (((Fragment.steady_text _).append
        (Fragment.steady_joined ", " hrendered)).append hclause)

end Update

/-! ## Deletes -/

namespace Delete

/-- A delete is compiled alike if its filter is the same in every run. -/
theorem alike_fragment (table : String) {f : ι → Filter} (hf : Filter.Steady V f) :
    Alike (Fragment.Steady V) fun i => (Delete.mk table (f i)).fragment d := by
  simp only [fragment_eq]
  by_cases hblank : Text.isBlankText table
  · simp only [if_pos hblank]
    exact .error _
  · simp only [if_neg hblank]
    refine (Filter.alike_clause hf).bind fun clause hclause => ?_
    exact .ok ((Fragment.steady_text _).append hclause)

end Delete

/-! ## Drafts -/

/-- The calls that make a statement, with values that vary. -/
inductive Draft (ι : Type) where
  | select (table : String) (calls : List (SelectCall ι))
  | insert (table : String) (row : RowDraft ι) (calls : List (InsertCall ι))
  | update (table : String) (calls : List (UpdateCall ι))
  | delete (table : String) (calls : List (FilterCall ι))

namespace Draft

/-- What the calls make in a run. -/
def builder (i : ι) : Draft ι → Builder
  | select table calls => .select (calls.foldl (SelectCall.apply i) (.ofTable table))
  | insert table row calls =>
      .insert (calls.foldl (InsertCall.apply i) { table, row := row.row i })
  | update table calls => .update (calls.foldl (UpdateCall.apply i) { table })
  | delete table calls => .delete { table, filter := calls.foldl (FilterCall.apply i) {} }

/-- The values that vary. -/
def values : Draft ι → List (Varying ι)
  | select _ calls => calls.flatMap SelectCall.values
  | insert _ row calls => row.values ++ calls.flatMap InsertCall.values
  | update _ calls => calls.flatMap UpdateCall.values
  | delete _ calls => calls.flatMap FilterCall.values

/-- The statement of a steady fragment is that of a template. -/
theorem alike_statement {x : ι → Except Refusal Fragment} (hx : Alike (Fragment.Steady V) x) :
    Alike (fun statement => ∃ t : Template ι, (∀ v ∈ t.params, V v)
      ∧ ∀ i, statement i = t.statement i) fun i => (x i).map Fragment.statement :=
  hx.map fun _ ⟨t, ht, heq⟩ => ⟨t, ht, heq⟩

/-- All runs are compiled to one template, in which the values of the draft vary, or they are
refused for the same cause. -/
theorem alike_build (t : Draft ι) (d : Dialect) :
    Alike (fun statement => ∃ template : Template ι, (∀ v ∈ template.params, v ∈ t.values)
      ∧ ∀ i, statement i = template.statement i) fun i => (t.builder i).build d := by
  cases t with
  | select table calls =>
      have hstart : Select.Steady (· ∈ (select table calls).values) fun _ => .ofTable table :=
        ⟨.ofTable table, _, Filter.steady_empty, rfl⟩
      refine alike_statement (Select.alike_fragment (preserved_foldl ?_ _ hstart))
      exact fun call hcall _ hs => Select.steady_apply hs fun v hv =>
        List.mem_flatMap.mpr ⟨call, hcall, hv⟩
  | insert table row calls =>
      have hrow : Row.Steady (· ∈ (insert table row calls).values) fun i => row.row i :=
        Row.steady_row fun v hv => List.mem_append_left _ hv
      have hstart : Insert.Steady (· ∈ (insert table row calls).values) fun i =>
          { table, row := row.row i } :=
        ⟨table, .insert, _, none, hrow, fun _ he => (by cases he), rfl⟩
      refine alike_statement (Insert.alike_fragment (preserved_foldl ?_ _ hstart))
      exact fun call hcall _ hx => Insert.steady_apply hx fun v hv =>
        List.mem_append_right _ (List.mem_flatMap.mpr ⟨call, hcall, hv⟩)
  | update table calls =>
      have hstart : Update.Steady (· ∈ (update table calls).values) fun _ => { table } :=
        ⟨table, _, _, .nil, Filter.steady_empty, rfl⟩
      refine alike_statement (Update.alike_fragment (preserved_foldl ?_ _ hstart))
      exact fun call hcall _ hu => Update.steady_apply hu fun v hv =>
        List.mem_flatMap.mpr ⟨call, hcall, hv⟩
  | delete table calls =>
      refine alike_statement (Delete.alike_fragment table
        (preserved_foldl ?_ _ Filter.steady_empty))
      exact fun call hcall _ hf => FilterCall.steady_apply hf fun v hv =>
        List.mem_flatMap.mpr ⟨call, hcall, hv⟩

end Draft

end BoundSql
