import BoundSql.Proofs.Filter
import BoundSql.Statement.Delete
import BoundSql.Statement.Insert
import BoundSql.Statement.Select
import BoundSql.Statement.Update

/-!
# Texts of statements

What a statement says is read off its parts, with any text in the place of each value.
With placeholders there it is the SQL that is sent, and with literals it is what the
statement means.  `Builder.build_binds` says that the parameters carry one over into the
other: a driver that fills the placeholders from left to right puts every value where it
belongs.
-/

namespace BoundSql

/-! ## Queries -/

/-- What the columns of a query take on trust. -/
def Columns.trusted : Columns → List String
  | .all => []
  | .listed columns => columns
  | .raw sql => [sql]

theorem Columns.unmarked_render {c : Columns} (h : ∀ s ∈ c.trusted, Text.Unmarked s) :
    Text.Unmarked c.render := by
  cases c with
  | all => decide
  | raw sql => exact h sql List.mem_cons_self
  | listed columns =>
      cases columns with
      | nil => decide
      | cons column columns => exact Text.unmarked_intercalate Text.unmarked_comma h

namespace Select

/-- The query, with a text for each value. -/
def spelled (s : Select) (write : Value → String) : String :=
  "SELECT " ++ s.columns.render ++ " FROM " ++ s.table ++ s.filter.spelled write ++ s.tail

/-- What a query takes on trust behind its condition. -/
def trustedTail (s : Select) : List String := s.grouping ++ s.order ++ s.collation.toList

/-- What a query takes on trust. -/
def trusted (s : Select) : List String :=
  s.columns.trusted ++ [s.table] ++ s.filter.trusted ++ s.trustedTail

theorem fragment_eq (s : Select) : s.fragment =
    if Text.isBlankText s.table then .error .missingTable
    else s.filter.clause >>= fun condition => .ok (.text
      ("SELECT " ++ s.columns.render ++ " FROM " ++ s.table) ++ condition ++ .text s.tail) := rfl

theorem unmarked_termsClause {keyword : String} (hkeyword : Text.Unmarked keyword)
    {terms : List String} (h : ∀ s ∈ terms, Text.Unmarked s) :
    Text.Unmarked (termsClause keyword terms) := by
  rw [termsClause]
  by_cases hempty : terms.isEmpty
  · rw [if_pos hempty]
    decide
  · rw [if_neg hempty]
    simp only [Text.unmarked_append]
    exact ⟨⟨⟨by decide, hkeyword⟩, by decide⟩, Text.unmarked_intercalate Text.unmarked_comma h⟩

theorem unmarked_limitClause (s : Select) : Text.Unmarked s.limitClause := by
  rw [limitClause]
  cases s.limit with
  | none =>
      show Text.Unmarked ""
      decide
  | some limit =>
      cases s.offset with
      | none =>
          simp only [Text.unmarked_append]
          exact ⟨by decide, Text.unmarked_toString _⟩
      | some offset =>
          simp only [Text.unmarked_append]
          exact ⟨⟨⟨by decide, Text.unmarked_toString _⟩, by decide⟩, Text.unmarked_toString _⟩

theorem unmarked_tail {s : Select} (h : ∀ t ∈ s.trustedTail, Text.Unmarked t) :
    Text.Unmarked s.tail := by
  rw [trustedTail, List.forall_mem_append, List.forall_mem_append] at h
  obtain ⟨⟨hgrouping, horder⟩, hcollation⟩ := h
  have hcollate : Text.Unmarked ((s.collation.map (" COLLATE " ++ ·)).getD "") := by
    cases hc : s.collation with
    | none => decide
    | some collation =>
        rw [hc] at hcollation
        exact Text.unmarked_append.mpr ⟨by decide, hcollation collation List.mem_cons_self⟩
  simp only [tail, Text.unmarked_append]
  exact ⟨⟨⟨unmarked_termsClause (by decide) hgrouping, unmarked_termsClause (by decide) horder⟩,
    s.unmarked_limitClause⟩, hcollate⟩

theorem spells_fragment {s : Select} {f : Fragment} (h : s.fragment = .ok f) :
    f.Spells s.spelled s.filter.values s.trusted := by
  rw [fragment_eq, ite_error_eq_ok] at h
  obtain ⟨_, h⟩ := h
  obtain ⟨condition, hcondition, h⟩ := bind_eq_ok.mp h
  cases h
  have hhead : (Fragment.text ("SELECT " ++ s.columns.render ++ " FROM " ++ s.table)).Spells
      (fun _ => "SELECT " ++ s.columns.render ++ " FROM " ++ s.table) []
      (s.columns.trusted ++ [s.table]) := by
    refine Fragment.spells_text fun htrusted => ?_
    rw [List.forall_mem_append] at htrusted
    simp only [Text.unmarked_append]
    exact ⟨⟨⟨by decide, Columns.unmarked_render htrusted.1⟩, by decide⟩,
      htrusted.2 s.table List.mem_cons_self⟩
  have happend := (hhead.append (Filter.spells_clause hcondition)).append
    (Fragment.spells_text (unmarked_tail (s := s)))
  rw [List.nil_append, List.append_nil] at happend
  exact happend

end Select

/-! ## Inserts -/

namespace Dialect

theorem unmarked_quote (d : Dialect) {identifier : String} (h : Text.Unmarked identifier) :
    Text.Unmarked (d.quote identifier) := by
  have hquote : Text.Unmarked d.identifierQuote := by
    cases d <;> decide
  simp only [quote, Text.unmarked_append]
  exact ⟨⟨hquote, h⟩, hquote⟩

theorem unmarked_quoteAll (d : Dialect) {identifiers : List String}
    (h : ∀ s ∈ identifiers, Text.Unmarked s) : Text.Unmarked (d.quoteAll identifiers) := by
  refine Text.unmarked_intercalate Text.unmarked_comma fun quoted hquoted => ?_
  obtain ⟨identifier, hidentifier, rfl⟩ := List.mem_map.mp hquoted
  exact d.unmarked_quote (h identifier hidentifier)

theorem unmarked_upsertHead (d : Dialect) {conflict : List String}
    (h : ∀ s ∈ conflict, Text.Unmarked s) : Text.Unmarked (d.upsertHead conflict) := by
  cases d with
  | mysql =>
      show Text.Unmarked "ON DUPLICATE KEY UPDATE "
      decide
  | sqlite =>
      rw [upsertHead]
      by_cases hempty : conflict.isEmpty
      · rw [if_pos hempty]
        decide
      · rw [if_neg hempty]
        simp only [Text.unmarked_append]
        exact ⟨⟨by decide, unmarked_quoteAll _ h⟩, by decide⟩

theorem unmarked_verb (d : Dialect) (verb : InsertVerb) : Text.Unmarked (verb.render d) := by
  cases verb <;> cases d <;> decide

end Dialect

namespace Insert

/-- The clause for a row that is there, with a text for each value. -/
def spelledConflict (d : Dialect) (onConflict : Option (List String × Row))
    (write : Value → String) : String :=
  match onConflict with
  | none => ""
  | some (conflict, update) => " " ++ d.upsertHead conflict
      ++ String.intercalate ", " (update.entries.map fun e => d.quote e.1 ++ " = " ++ write e.2)

/-- The columns of a row in a dialect, each with the text of its own value. -/
def paired (d : Dialect) (row : Row) (write : Value → String) : List (String × String) :=
  row.entries.map fun e => (d.quote e.1, write e.2)

/-- The insert, with a text for each value.  The columns and the values are listed apart, in the
order of the pairs that they make. -/
def spelled (i : Insert) (d : Dialect) (write : Value → String) : String :=
  i.verb.render d ++ " INTO " ++ d.quote i.table
    ++ " (" ++ String.intercalate ", " ((paired d i.row write).map Prod.fst) ++ ")"
    ++ " VALUES (" ++ String.intercalate ", " ((paired d i.row write).map Prod.snd) ++ ")"
    ++ spelledConflict d i.onConflict write

/-- The values that the clause for a row that is there binds. -/
def conflictValues : Option (List String × Row) → List Value
  | none => []
  | some (_, update) => update.values

/-- The values that an insert binds. -/
def values (i : Insert) : List Value := i.row.values ++ conflictValues i.onConflict

/-- What the clause for a row that is there takes on trust. -/
def trustedConflict : Option (List String × Row) → List String
  | none => []
  | some (conflict, update) => conflict ++ update.columns

/-- What an insert takes on trust. -/
def trusted (i : Insert) : List String :=
  i.table :: i.row.columns ++ trustedConflict i.onConflict

theorem spells_assignment (d : Dialect) (e : String × Value) :
    (assignment d e).Spells (fun write => d.quote e.1 ++ " = " ++ write e.2) [e.2] [e.1] := by
  have hcolumn : (Fragment.text (d.quote e.1 ++ " = ")).Spells (fun _ => d.quote e.1 ++ " = ") []
      [e.1] := by
    refine Fragment.spells_text fun h => ?_
    rw [Text.unmarked_append]
    exact ⟨d.unmarked_quote (h e.1 List.mem_cons_self), by decide⟩
  exact hcolumn.append (Fragment.spells_bound e.2)

theorem spells_conflictClause {d : Dialect} {onConflict : Option (List String × Row)}
    {f : Fragment} (h : conflictClause d onConflict = .ok f) :
    f.Spells (spelledConflict d onConflict) (conflictValues onConflict)
      (trustedConflict onConflict) := by
  cases onConflict with
  | none =>
      cases h
      exact Fragment.spells_nil []
  | some e =>
      obtain ⟨conflict, update⟩ := e
      have hclause : conflictClause d (some (conflict, update)) =
          if update.isEmpty then .error (.emptyData .update)
          else .ok (.text (" " ++ d.upsertHead conflict)
            ++ .joined ", " (update.entries.map (assignment d))) := rfl
      rw [hclause, ite_error_eq_ok] at h
      cases h.2
      have hhead : (Fragment.text (" " ++ d.upsertHead conflict)).Spells
          (fun _ => " " ++ d.upsertHead conflict) [] conflict :=
        Fragment.spells_text fun htrusted =>
          Text.unmarked_append.mpr ⟨by decide, d.unmarked_upsertHead htrusted⟩
      have happend := hhead.append
        (Fragment.spells_joined Text.unmarked_comma update.entries fun e _ => spells_assignment d e)
      rw [← List.map_eq_flatMap, ← List.map_eq_flatMap] at happend
      exact happend

theorem fragment_eq (i : Insert) (d : Dialect) : i.fragment d =
    if Text.isBlankText i.table then .error .missingTable
    else if i.row.isEmpty then .error (.emptyData .insert)
    else conflictClause d i.onConflict >>= fun conflict => .ok
      (.text (head (i.verb.render d) d i.table i.row.columns) ++ .tuple i.row.values ++ conflict) :=
  rfl

/-- The insert is spelled from left to right: what stands in front of the values, the values, and
the clause for a row that is there. -/
theorem spelled_eq (i : Insert) (d : Dialect) (write : Value → String) :
    i.spelled d write = head (i.verb.render d) d i.table i.row.columns
      ++ ("(" ++ String.intercalate ", " (i.row.values.map write) ++ ")")
      ++ spelledConflict d i.onConflict write := by
  have hcolumns : (paired d i.row write).map Prod.fst = i.row.columns.map d.quote := by
    rw [paired, Row.columns, List.map_map, List.map_map]
    rfl
  have hvalues : (paired d i.row write).map Prod.snd = i.row.values.map write := by
    rw [paired, Row.values, List.map_map, List.map_map]
    rfl
  have hclose : ") VALUES " = ")" ++ " VALUES " := rfl
  have hopen : " VALUES (" = " VALUES " ++ "(" := rfl
  rw [spelled, hcolumns, hvalues, head, Dialect.quoteAll, hclose, hopen]
  simp only [String.append_assoc]

theorem spells_fragment {i : Insert} {d : Dialect} {f : Fragment} (h : i.fragment d = .ok f) :
    f.Spells (i.spelled d) i.values i.trusted := by
  rw [fragment_eq, ite_error_eq_ok, ite_error_eq_ok] at h
  obtain ⟨_, _, h⟩ := h
  obtain ⟨conflict, hconflict, h⟩ := bind_eq_ok.mp h
  cases h
  have hhead : (Fragment.text (head (i.verb.render d) d i.table i.row.columns)).Spells
      (fun _ => head (i.verb.render d) d i.table i.row.columns) [] (i.table :: i.row.columns) := by
    refine Fragment.spells_text fun htrusted => ?_
    obtain ⟨htable, hcolumns⟩ := List.forall_mem_cons.mp htrusted
    simp only [head, Text.unmarked_append]
    exact ⟨⟨⟨⟨⟨d.unmarked_verb i.verb, by decide⟩, d.unmarked_quote htable⟩, by decide⟩,
      d.unmarked_quoteAll hcolumns⟩, by decide⟩
  have happend := (hhead.append (Fragment.spells_tuple i.row.values)).append
    (spells_conflictClause hconflict)
  rw [List.append_nil] at happend
  rw [show i.spelled d = _ from funext (i.spelled_eq d)]
  exact happend

end Insert

/-! ## Updates -/

namespace Assignment

/-- The column that is assigned to. -/
def column : Assignment → String
  | set column _ => column
  | increment column _ => column

/-- The value that is assigned or added. -/
def value : Assignment → Value
  | set _ value => value
  | increment _ amount => amount

/-- The assignment, with a text for its value. -/
def spelled (d : Dialect) (a : Assignment) (write : Value → String) : String :=
  match a with
  | set column value => d.quote column ++ " = " ++ write value
  | increment column amount => d.quote column ++ " = " ++ d.quote column ++ " + " ++ write amount

theorem spells_render (d : Dialect) (a : Assignment) :
    (a.render d).Spells (a.spelled d) [a.value] [a.column] := by
  cases a with
  | set column value => exact Insert.spells_assignment d (column, value)
  | increment column amount =>
      have hcolumn : (Fragment.text (d.quote column ++ " = " ++ d.quote column ++ " + ")).Spells
          (fun _ => d.quote column ++ " = " ++ d.quote column ++ " + ") [] [column] := by
        refine Fragment.spells_text fun h => ?_
        have hquote := d.unmarked_quote (h column List.mem_cons_self)
        simp only [Text.unmarked_append]
        exact ⟨⟨⟨hquote, by decide⟩, hquote⟩, by decide⟩
      exact hcolumn.append (Fragment.spells_bound amount)

end Assignment

namespace Update

/-- The update, with a text for each value. -/
def spelled (u : Update) (d : Dialect) (write : Value → String) : String :=
  "UPDATE " ++ d.quote u.table ++ " SET "
    ++ String.intercalate ", " (u.assignments.map fun a => a.spelled d write)
    ++ u.filter.spelled write

/-- The values that an update binds. -/
def values (u : Update) : List Value := u.assignments.map Assignment.value ++ u.filter.values

/-- What an update takes on trust. -/
def trusted (u : Update) : List String :=
  u.table :: u.assignments.map Assignment.column ++ u.filter.trusted

theorem fragment_eq (u : Update) (d : Dialect) : u.fragment d =
    if Text.isBlankText u.table then .error .missingTable
    else if u.assignments.isEmpty then .error (.emptyData .update)
    else u.filter.clause >>= fun condition => .ok (.text ("UPDATE " ++ d.quote u.table ++ " SET ")
      ++ .joined ", " (u.assignments.map (Assignment.render d)) ++ condition) := rfl

theorem spells_fragment {u : Update} {d : Dialect} {f : Fragment} (h : u.fragment d = .ok f) :
    f.Spells (u.spelled d) u.values u.trusted := by
  rw [fragment_eq, ite_error_eq_ok, ite_error_eq_ok] at h
  obtain ⟨_, _, h⟩ := h
  obtain ⟨condition, hcondition, h⟩ := bind_eq_ok.mp h
  cases h
  have hhead : (Fragment.text ("UPDATE " ++ d.quote u.table ++ " SET ")).Spells
      (fun _ => "UPDATE " ++ d.quote u.table ++ " SET ") [] [u.table] := by
    refine Fragment.spells_text fun htrusted => ?_
    simp only [Text.unmarked_append]
    exact ⟨⟨by decide, d.unmarked_quote (htrusted u.table List.mem_cons_self)⟩, by decide⟩
  have happend := (hhead.append (Fragment.spells_joined Text.unmarked_comma u.assignments fun a _ =>
    a.spells_render d)).append (Filter.spells_clause hcondition)
  rw [← List.map_eq_flatMap, ← List.map_eq_flatMap] at happend
  exact happend

end Update

/-! ## Deletes -/

namespace Delete

/-- The delete, with a text for each value. -/
def spelled (x : Delete) (d : Dialect) (write : Value → String) : String :=
  "DELETE FROM " ++ d.quote x.table ++ x.filter.spelled write

/-- What a delete takes on trust. -/
def trusted (x : Delete) : List String := x.table :: x.filter.trusted

theorem fragment_eq (x : Delete) (d : Dialect) : x.fragment d =
    if Text.isBlankText x.table then .error .missingTable
    else x.filter.clause >>= fun condition =>
      .ok (.text ("DELETE FROM " ++ d.quote x.table) ++ condition) := rfl

theorem spells_fragment {x : Delete} {d : Dialect} {f : Fragment} (h : x.fragment d = .ok f) :
    f.Spells (x.spelled d) x.filter.values x.trusted := by
  rw [fragment_eq, ite_error_eq_ok] at h
  obtain ⟨_, h⟩ := h
  obtain ⟨condition, hcondition, h⟩ := bind_eq_ok.mp h
  cases h
  have hhead : (Fragment.text ("DELETE FROM " ++ d.quote x.table)).Spells
      (fun _ => "DELETE FROM " ++ d.quote x.table) [] [x.table] :=
    Fragment.spells_text fun htrusted => Text.unmarked_append.mpr
      ⟨by decide, d.unmarked_quote (htrusted x.table List.mem_cons_self)⟩
  exact hhead.append (Filter.spells_clause hcondition)

end Delete

/-! ## All statements -/

/-- A statement that has not been compiled. -/
inductive Builder where
  /-- A query. -/
  | select (s : Select)
  | insert (i : Insert)
  | update (u : Update)
  | delete (x : Delete)

namespace Builder

/-- The statement in a dialect. -/
def build (b : Builder) (d : Dialect) : Except Refusal Statement :=
  match b with
  | select s => s.build
  | insert i => i.build d
  | update u => u.build d
  | delete x => x.build d

/-- What the statement says, with a text for each value. -/
def spelled (b : Builder) (d : Dialect) : (Value → String) → String :=
  match b with
  | select s => s.spelled
  | insert i => i.spelled d
  | update u => u.spelled d
  | delete x => x.spelled d

/-- The values that the statement binds. -/
def values : Builder → List Value
  | select s => s.filter.values
  | insert i => i.values
  | update u => u.values
  | delete x => x.filter.values

/-- What the statement takes on trust. -/
def trusted : Builder → List String
  | select s => s.trusted
  | insert i => i.trusted
  | update u => u.trusted
  | delete x => x.trusted

/-- A statement that compiles is the statement of a fragment that spells it. -/
theorem spells_build {b : Builder} {d : Dialect} {statement : Statement}
    (h : b.build d = .ok statement) :
    ∃ f : Fragment, statement = f.statement ∧ f.Spells (b.spelled d) b.values b.trusted := by
  cases b with
  | select s =>
      obtain ⟨f, hf, rfl⟩ := map_eq_ok.mp h
      exact ⟨f, rfl, Select.spells_fragment hf⟩
  | insert i =>
      obtain ⟨f, hf, rfl⟩ := map_eq_ok.mp h
      exact ⟨f, rfl, Insert.spells_fragment hf⟩
  | update u =>
      obtain ⟨f, hf, rfl⟩ := map_eq_ok.mp h
      exact ⟨f, rfl, Update.spells_fragment hf⟩
  | delete x =>
      obtain ⟨f, hf, rfl⟩ := map_eq_ok.mp h
      exact ⟨f, rfl, Delete.spells_fragment hf⟩

/-- The parameters of a statement belong to its placeholders.  There are as many of both,
and filling the placeholders from left to right with the literals of the parameters gives
the statement with every value written at its own place, question marks in it or not. -/
theorem build_binds (b : Builder) (d : Dialect) (statement : Statement)
    (htrusted : ∀ s ∈ b.trusted, Text.Unmarked s) (h : b.build d = .ok statement) :
    statement.sql = b.spelled d (fun _ => "?")
      ∧ statement.params = b.values
      ∧ statement.sql.toList.count '?' = statement.params.length
      ∧ String.ofList
          (Fragment.fill statement.sql.toList (statement.params.map Value.inline))
        = b.spelled d Value.inline := by
  obtain ⟨f, rfl, hspells⟩ := spells_build h
  obtain ⟨hcount, hfill⟩ := hspells.filled htrusted
  have hparams : f.statement.params = b.values := hspells.params_eq
  rw [hparams]
  exact ⟨f.sql_eq_written.trans (hspells.written_eq _), rfl, hcount, hfill⟩

/-- An update with question marks among its values. -/
def marked : Update where
  table := "t"
  assignments := [.set "a" (.text "?"), .increment "n" (.int 2)]
  filter := ((Filter.empty.whereIn "x" [.int 1, .text "b?"]).whereNull "y").orWhere "z" "<" (.int 3)

/-- The question marks of the values are not taken for placeholders. -/
theorem build_binds_marked : (∀ s ∈ (update marked).trusted, Text.Unmarked s)
    ∧ ∃ statement, (update marked).build .sqlite = .ok statement
      ∧ statement.sql = "UPDATE \"t\" SET \"a\" = ?, \"n\" = \"n\" + ? " ++
        "WHERE (x IN (?, ?) AND y IS NULL) OR (z < ?)"
      ∧ String.ofList (Fragment.fill statement.sql.toList (statement.params.map Value.inline))
        = "UPDATE \"t\" SET \"a\" = '?', \"n\" = \"n\" + 2 " ++
          "WHERE (x IN (1, 'b?') AND y IS NULL) OR (z < 3)" := by
  have htrusted : ∀ s ∈ (update marked).trusted, Text.Unmarked s := by decide +kernel
  have hbuild : (update marked).build .sqlite
      = .ok ⟨"UPDATE \"t\" SET \"a\" = ?, \"n\" = \"n\" + ? " ++
          "WHERE (x IN (?, ?) AND y IS NULL) OR (z < ?)",
        [.text "?", .int 2, .int 1, .text "b?", .int 3]⟩ := by rfl
  obtain ⟨_, _, _, hfilled⟩ := build_binds (update marked) .sqlite _ htrusted hbuild
  refine ⟨htrusted, _, hbuild, rfl, hfilled.trans ?_⟩
  decide +kernel

end Builder

end BoundSql
