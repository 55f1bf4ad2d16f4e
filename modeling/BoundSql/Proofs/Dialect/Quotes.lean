import BoundSql.Proofs.Schema.Constraint
import BoundSql.Proofs.Statement.Compiled
import BoundSql.Proofs.Text.Split

/-!
# Statements between other quotes

The dialects put identifiers between different quotes.  Where they differ in nothing else, a
statement for SQLite is the statement for MySQL with double quotes for its backticks,
`Statement.requoted`.

Other quotes are put in piece by piece, `Fragment.requoted`.  They go through the operations
that put fragments together, and come to rest at what the caller gave: there are no backticks in
it, so it stays as it is, and the quotes around it become those of SQLite.  Whether a statement is
refused is decided before any quote is written.  `Dialect.sqlite_eq_requoted` collects the
statements for which this holds.
-/

namespace BoundSql

/-! ## Texts -/

namespace Text

/-- A backtick becomes a double quote. -/
def requote (c : Char) : Char := if c = '\x60' then '"' else c

/-- The text with double quotes for its backticks. -/
def requoted (s : String) : String := String.ofList (s.toList.map requote)

/-- There is no backtick in a text. -/
def Unticked (s : String) : Prop := '\x60' ∉ s.toList

instance (s : String) : Decidable (Unticked s) :=
  inferInstanceAs (Decidable (¬ '\x60' ∈ s.toList))

theorem toList_requoted (s : String) : (requoted s).toList = s.toList.map requote :=
  String.toList_ofList

theorem requoted_of_unticked {s : String} (h : Unticked s) : requoted s = s := by
  have hself : ∀ c ∈ s.toList, requote c = c := by
    intro c hc
    refine if_neg fun htick => h ?_
    rwa [htick] at hc
  rw [← String.toList_inj, toList_requoted, List.map_congr_left hself, List.map_id']

@[simp] theorem requoted_append (s t : String) : requoted (s ++ t) = requoted s ++ requoted t := by
  rw [← String.toList_inj, toList_requoted, String.toList_append, List.map_append,
    String.toList_append, toList_requoted, toList_requoted]

theorem requoted_join : ∀ ss : List String,
    requoted (String.join ss) = String.join (ss.map requoted)
  | [] => by decide
  | s :: ss => by
      rw [String.join_cons, requoted_append, requoted_join ss, List.map_cons, String.join_cons]

theorem requoted_intercalate {separator : String} (hsep : Unticked separator) (ss : List String) :
    requoted (String.intercalate separator ss) = String.intercalate separator (ss.map requoted) :=
  change_intercalate (requoted_of_unticked (by decide)) requoted_append
    (requoted_of_unticked hsep) ss

end Text

open Text (Unticked requoted_of_unticked requoted_append requoted_join requoted_intercalate)

/-! ## Fragments -/

/-- The piece with double quotes for the backticks of its text. -/
def Piece.requoted : Piece → Piece
  | text s => text (Text.requoted s)
  | bound v => bound v

/-- The statement with double quotes for its backticks.  Its parameters are the same. -/
def Statement.requoted (s : Statement) : Statement := { s with sql := Text.requoted s.sql }

namespace Fragment

/-- The fragment with double quotes for the backticks of its texts. -/
def requoted (f : Fragment) : Fragment := f.map Piece.requoted

@[simp] theorem requoted_nil : requoted [] = [] := rfl

@[simp] theorem requoted_text (s : String) : (text s).requoted = text (Text.requoted s) := rfl

@[simp] theorem requoted_bound (v : Value) : (bound v).requoted = bound v := rfl

@[simp] theorem requoted_append (f g : Fragment) :
    (f ++ g).requoted = f.requoted ++ g.requoted :=
  List.map_append

theorem requoted_joined {separator : String} (hsep : Unticked separator) :
    ∀ fs : List Fragment, (joined separator fs).requoted = joined separator (fs.map requoted)
  | [] => rfl
  | [f] => by rw [List.map_singleton, joined_singleton, joined_singleton]
  | f :: g :: fs => by
      rw [joined_cons_cons, requoted_append, requoted_append, requoted_text,
        requoted_of_unticked hsep, requoted_joined hsep (g :: fs)]
      simp only [List.map_cons, joined_cons_cons]

/-- Members that stay as they are stay so together. -/
theorem requoted_joined_of_forall {separator : String} (hsep : Unticked separator)
    {fs : List Fragment} (h : ∀ f ∈ fs, f.requoted = f) :
    (joined separator fs).requoted = joined separator fs := by
  rw [requoted_joined hsep, List.map_congr_left h, List.map_id']

theorem requoted_parenthesized (f : Fragment) :
    f.parenthesized.requoted = f.requoted.parenthesized := by
  simp (disch := decide) only [parenthesized, requoted_append, requoted_text,
    requoted_of_unticked]

theorem requoted_tuple (vs : List Value) : (tuple vs).requoted = tuple vs := by
  rw [tuple, requoted_parenthesized, requoted_joined_of_forall (by decide)]
  rw [List.forall_mem_map]
  exact fun v _ => requoted_bound v

/-- Nothing of a value is in the text of a statement, so only the text has other quotes. -/
theorem statement_requoted (f : Fragment) : f.requoted.statement = f.statement.requoted := by
  have hpiece : ∀ p : Piece, p.requoted.sql = Text.requoted p.sql
      ∧ p.requoted.value? = p.value? := by
    intro p
    cases p with
    | text s => exact ⟨rfl, rfl⟩
    | bound v => exact ⟨(requoted_of_unticked (s := Value.placeholder) (by decide)).symm, rfl⟩
  have hsql : f.requoted.sql = Text.requoted f.sql := by
    rw [sql, sql, requoted, requoted_join, List.map_map, List.map_map]
    exact congrArg String.join (List.map_congr_left fun p _ => (hpiece p).1)
  have hparams : f.requoted.params = f.params := by
    rw [params, params, requoted, List.filterMap_map]
    exact congrArg (List.filterMap · f) (funext fun p => (hpiece p).2)
  rw [statement, statement, Statement.requoted, hsql, hparams]

end Fragment

/-! ## Filters -/

namespace Predicate

theorem requoted_operand (op : Operator) (value : Value) :
    (operand op value).requoted = operand op value := by
  unfold operand
  by_cases hnull : op.isNullCheck
  · rw [if_pos hnull]
    exact congrArg Fragment.text (requoted_of_unticked (by decide))
  · rw [if_neg hnull]
    cases value with
    | list items => exact Fragment.requoted_tuple items
    | null | bool | int | float | text | blob => exact Fragment.requoted_bound _

theorem requoted_fragment {p : Predicate} (h : ∀ s ∈ p.trusted, Unticked s) :
    p.fragment.requoted = p.fragment := by
  cases p with
  | raw sql => exact congrArg Fragment.text (requoted_of_unticked (h sql List.mem_cons_self))
  | compare column operator value =>
      have hcolumn : Unticked column := h column List.mem_cons_self
      rw [fragment]
      cases Operator.ofText? operator with
      | none => rfl
      | some op =>
          have hsymbol : Unticked op.symbol := by
            cases op <;> decide
          simp (disch := decide) only [comparison, Fragment.requoted_append, requoted_operand,
            Fragment.requoted_text, requoted_append, requoted_of_unticked,
            requoted_of_unticked hcolumn, requoted_of_unticked hsymbol]

end Predicate

namespace Filter

theorem requoted_fragmentGroup {ps : List Predicate}
    (h : ∀ p ∈ ps, ∀ s ∈ p.trusted, Unticked s) :
    (fragmentGroup ps).requoted = fragmentGroup ps := by
  refine Fragment.requoted_joined_of_forall (by decide) ?_
  rw [List.forall_mem_map]
  exact fun p hp => Predicate.requoted_fragment (h p hp)

/-- There are no identifiers between quotes in a condition. -/
theorem requoted_clause {f : Filter} (h : ∀ s ∈ f.trusted, Unticked s) {g : Fragment}
    (hclause : f.clause = .ok g) : g.requoted = g := by
  have hgroups : ∀ ps ∈ f.groups, ∀ p ∈ ps, ∀ s ∈ p.trusted, Unticked s := by
    intro ps hps p hp s hs
    rw [trusted_eq] at h
    exact h s (List.mem_flatMap.mpr ⟨ps, hps, List.mem_flatMap.mpr ⟨p, hp, hs⟩⟩)
  have hwhere : (Fragment.text " WHERE ").requoted = .text " WHERE " :=
    congrArg Fragment.text (requoted_of_unticked (by decide))
  obtain ⟨condition, hcondition, hclause⟩ := bind_eq_ok.mp hclause
  rw [compile_eq_ok hcondition] at hclause
  by_cases hempty : f.isEmpty
  · rw [if_pos hempty] at hclause
    cases hclause
    rfl
  · rw [if_neg hempty] at hclause
    by_cases hno : f.alternatives.isEmpty
    · have hconjuncts : ∀ p ∈ f.conjuncts, ∀ s ∈ p.trusted, Unticked s := fun p hp s hs =>
        h s (List.mem_flatMap.mpr ⟨p, List.mem_append_left _ hp, hs⟩)
      rw [if_pos hno] at hclause
      cases hclause
      rw [Fragment.requoted_append, hwhere, requoted_fragmentGroup hconjuncts]
    · rw [if_neg hno] at hclause
      cases hclause
      rw [Fragment.requoted_append, hwhere, Fragment.requoted_joined_of_forall (by decide)]
      rw [List.forall_mem_map]
      intro ps hps
      rw [Fragment.requoted_parenthesized, requoted_fragmentGroup (hgroups ps hps)]

end Filter

/-! ## Single statements -/

namespace Dialect

theorem requoted_quote {identifier : String} (h : Unticked identifier) :
    Text.requoted (mysql.quote identifier) = sqlite.quote identifier := by
  have htick : Text.requoted mysql.identifierQuote = sqlite.identifierQuote := by decide
  rw [quote, requoted_append, requoted_append, htick, requoted_of_unticked h]
  rfl

theorem requoted_quoteAll {identifiers : List String} (h : ∀ s ∈ identifiers, Unticked s) :
    Text.requoted (mysql.quoteAll identifiers) = sqlite.quoteAll identifiers := by
  rw [quoteAll, requoted_intercalate (by decide), List.map_map]
  exact congrArg (String.intercalate ", ")
    (List.map_congr_left fun identifier hmem => requoted_quote (h identifier hmem))

end Dialect

/-- A statement has other quotes if its fragment has. -/
theorem Fragment.build_requoted {x y : Except Refusal Fragment} (h : y = x.map requoted) :
    y.map statement = (x.map statement).map Statement.requoted := by
  rw [h]
  cases x with
  | ok f => exact congrArg Except.ok (statement_requoted f)
  | error refusal => rfl

namespace Insert

theorem requoted_head {verb table : String} {columns : List String} (hverb : Unticked verb)
    (htable : Unticked table) (hcolumns : ∀ s ∈ columns, Unticked s) :
    Text.requoted (head verb .mysql table columns) = head verb .sqlite table columns := by
  simp (disch := decide) only [head, requoted_append, requoted_of_unticked,
    requoted_of_unticked hverb, Dialect.requoted_quote htable, Dialect.requoted_quoteAll hcolumns]

/-- The verbs for rows that are not skipped are the same for all dialects. -/
theorem render_verb {verb : InsertVerb} (h : verb ≠ .insertIgnore) :
    verb.render .sqlite = verb.render .mysql ∧ Unticked (verb.render .mysql) := by
  cases verb with
  | insert => exact ⟨rfl, by decide⟩
  | insertIgnore => exact absurd rfl h
  | replace => exact ⟨rfl, by decide⟩

theorem build_sqlite {i : Insert} (hverb : i.verb ≠ .insertIgnore) (hconflict : i.onConflict = none)
    (h : ∀ s ∈ i.trusted, Unticked s) :
    i.build .sqlite = (i.build .mysql).map Statement.requoted := by
  rw [trusted, hconflict, trustedConflict, List.append_nil, List.forall_mem_cons] at h
  obtain ⟨hrender, hunticked⟩ := render_verb hverb
  refine Fragment.build_requoted ?_
  rw [fragment_eq, fragment_eq, hconflict]
  refine ite_error_eq_map (ite_error_eq_map (congrArg Except.ok ?_))
  rw [Fragment.requoted_append, Fragment.requoted_append, Fragment.requoted_tuple,
    Fragment.requoted_text, requoted_head hunticked h.1 h.2, hrender, Fragment.requoted_nil]

end Insert

namespace Update

theorem requoted_assignment {a : Assignment} (h : Unticked a.column) :
    (a.render .mysql).requoted = a.render .sqlite := by
  cases a with
  | set column value | increment column value =>
      have hquote : Text.requoted (Dialect.mysql.quote column) = _ := Dialect.requoted_quote h
      simp (disch := decide) only [Assignment.render, Fragment.requoted_append,
        Fragment.requoted_text, Fragment.requoted_bound, requoted_append, requoted_of_unticked,
        hquote]

theorem build_sqlite {u : Update} (h : ∀ s ∈ u.trusted, Unticked s) :
    u.build .sqlite = (u.build .mysql).map Statement.requoted := by
  rw [trusted, List.cons_append, List.forall_mem_cons, List.forall_mem_append,
    List.forall_mem_map] at h
  obtain ⟨htable, hassignments, hfilter⟩ := h
  refine Fragment.build_requoted ?_
  rw [fragment_eq, fragment_eq]
  refine ite_error_eq_map (ite_error_eq_map (bind_eq_map fun condition hcondition => ?_))
  have hmembers : (u.assignments.map (Assignment.render .mysql)).map Fragment.requoted
      = u.assignments.map (Assignment.render .sqlite) := by
    rw [List.map_map]
    exact List.map_congr_left fun a ha => requoted_assignment (hassignments a ha)
  refine congrArg Except.ok ?_
  simp (disch := decide) only [Fragment.requoted_append, Fragment.requoted_text,
    Fragment.requoted_joined, hmembers, Filter.requoted_clause hfilter hcondition,
    requoted_append, requoted_of_unticked, Dialect.requoted_quote htable]

end Update

theorem Delete.build_sqlite {x : Delete} (h : ∀ s ∈ x.trusted, Unticked s) :
    x.build .sqlite = (x.build .mysql).map Statement.requoted := by
  rw [trusted, List.forall_mem_cons] at h
  refine Fragment.build_requoted ?_
  rw [fragment_eq, fragment_eq]
  refine ite_error_eq_map (bind_eq_map fun condition hcondition => congrArg Except.ok ?_)
  simp (disch := decide) only [Fragment.requoted_append, Fragment.requoted_text,
    Filter.requoted_clause h.2 hcondition, requoted_append, requoted_of_unticked,
    Dialect.requoted_quote h.1]

/-! ## Batches -/

/-- The chunk with double quotes for the backticks of its statement. -/
def Chunk.requoted (c : Chunk) : Chunk := { c with statement := c.statement.requoted }

namespace ChunkFrame

/-- The frame with double quotes for its backticks. -/
def requoted (frame : ChunkFrame) : ChunkFrame :=
  ⟨Text.requoted frame.head, Text.requoted frame.tail⟩

theorem fragment_requoted (frame : ChunkFrame) (rows : List Row) :
    frame.requoted.fragment rows = (frame.fragment rows).requoted := by
  have htuples : (Fragment.joined ", " (rows.map fun r => .tuple r.values)).requoted
      = .joined ", " (rows.map fun r => .tuple r.values) := by
    refine Fragment.requoted_joined_of_forall (by decide) ?_
    rw [List.forall_mem_map]
    exact fun r _ => Fragment.requoted_tuple r.values
  rw [fragment, fragment, Fragment.requoted_append, Fragment.requoted_append, htuples]
  rfl

end ChunkFrame

namespace ChunkCursor

/-- The cursor of the same rows in the frame with double quotes. -/
def requoted (c : ChunkCursor) : ChunkCursor := { c with frame := c.frame.requoted }

/-- The rows are split in the same way whatever stands around them. -/
theorem next?_requoted (c : ChunkCursor) :
    c.requoted.next? = c.next?.map fun e => (e.1.requoted, e.2.requoted) := by
  rw [next?, next?]
  by_cases hend : c.plan.totalRows ≤ c.position
  · rw [if_pos hend]
    exact if_pos hend
  · rw [if_neg hend]
    refine (if_neg hend).trans (congrArg some (Prod.ext ?_ rfl))
    refine congrArg (Chunk.mk · _ _) ?_
    exact (congrArg Fragment.statement (c.frame.fragment_requoted _)).trans
      (Fragment.statement_requoted _)

theorem taken_requoted (n : Nat) (c : ChunkCursor) :
    taken n c.requoted = (taken n c).map fun e => (e.1, e.2.requoted) := by
  induction n generalizing c with
  | zero => rfl
  | succ n ih =>
      rw [taken, taken, next?_requoted]
      cases c.next? with
      | none => rfl
      | some e => exact congrArg _ (ih e.2)

end ChunkCursor

namespace BatchInsert

variable {b : BatchInsert}

theorem frame_sqlite (hmode : b.mode = .insert) (h : ∀ s ∈ b.trusted, Unticked s)
    {columns : List String} (hcolumns : b.columns = .ok columns) :
    b.frame .sqlite columns = (b.frame .mysql columns).requoted := by
  have hunticked : ∀ s ∈ columns, Unticked s := fun s hs => h s (mem_trusted hcolumns hs)
  have hverb : Unticked "INSERT" := by decide
  have hhead := Insert.requoted_head hverb (h b.table List.mem_cons_self) hunticked
  have htail : Text.requoted "" = "" := requoted_of_unticked (by decide)
  rw [ChunkFrame.requoted, frame, frame, hmode]
  exact congr (congrArg ChunkFrame.mk hhead.symm) htail.symm

theorem compile_sqlite (hmode : b.mode = .insert) (h : ∀ s ∈ b.trusted, Unticked s)
    (maxParams : UInt64) :
    b.compile .sqlite maxParams = (b.compile .mysql maxParams).map ChunkCursor.requoted := by
  rw [compile_eq, compile_eq]
  refine bind_eq_map fun columns hcolumns => bind_eq_map fun plan _ => ?_
  rw [frame_sqlite hmode h hcolumns]
  rfl

/-- The chunks that a batch gives out have other quotes. -/
theorem taken_sqlite (hmode : b.mode = .insert) (h : ∀ s ∈ b.trusted, Unticked s)
    (maxParams : UInt64) (n : Nat) :
    (b.compile .sqlite maxParams).map (ChunkCursor.taken n)
      = (b.compile .mysql maxParams).map fun c =>
          (c.taken n).map fun e => (e.1, e.2.requoted) := by
  rw [compile_sqlite hmode h]
  cases b.compile .mysql maxParams with
  | ok c => exact congrArg Except.ok (c.taken_requoted n)
  | error refusal => rfl

end BatchInsert

/-! ## Table definitions -/

/-- A column that is not numbered has the same type and the same constraints. -/
theorem ColumnSpec.compile_sqlite {c : ColumnSpec} (hnumbered : c.autoIncrement = false)
    (hname : Unticked c.name) (htype : Unticked c.type) :
    c.compile .sqlite = Text.requoted (c.compile .mysql) := by
  have hconstraints : Dialect.sqlite.constraints c = Dialect.mysql.constraints c := by
    show (if c.autoIncrement && c.primaryKey then _ else _) = c.constraints
    rw [hnumbered]
    rfl
  have hkeyword : ∀ k ∈ Dialect.mysql.constraints c,
      Text.requoted (Dialect.mysql.keyword k) = Dialect.sqlite.keyword k := by
    intro k hk
    cases k with
    | primaryKey | notNull | unique => exact requoted_of_unticked (by decide)
    | autoIncrement =>
        have hmarked := Dialect.mem_autoIncrement_iff.mp hk
        rw [hnumbered] at hmarked
        cases hmarked
  rw [compile, compile, hnumbered, if_neg Bool.false_ne_true, if_neg Bool.false_ne_true,
    requoted_intercalate (by decide), List.map_append, Dialect.columnConstraints,
    Dialect.columnConstraints, hconstraints, List.map_map, List.map_cons, List.map_singleton,
    Dialect.requoted_quote hname, requoted_of_unticked htype]
  exact congrArg (fun words => String.intercalate " " (_ ++ words))
    (List.map_congr_left fun k hk => (hkeyword k hk).symm)

theorem TableSchema.compile_sqlite {t : TableSchema} (hengine : t.draft.engine = none)
    (hcollation : t.draft.collation = none) (hnumbered : ∀ c ∈ t.columns, c.autoIncrement = false)
    (h : ∀ s ∈ t.trusted, Unticked s) :
    t.compile .sqlite = Text.requoted (t.compile .mysql) := by
  have hname : Unticked t.name := h t.name List.mem_cons_self
  have hdefinitions : t.columns.map (·.compile .sqlite)
      = (t.columns.map (·.compile .mysql)).map Text.requoted := by
    rw [List.map_map]
    exact List.map_congr_left fun c hc =>
      c.compile_sqlite (hnumbered c hc) (h _ (mem_trusted hc).1) (h _ (mem_trusted hc).2)
  have hexisting : Unticked (if t.draft.ifNotExists then "IF NOT EXISTS " else "") := by
    cases t.draft.ifNotExists <;> decide
  have hoptions : ∀ d, t.options d = [] := by
    intro d
    rw [options, hengine, hcollation]
    cases d <;> rfl
  unfold compile
  simp (disch := decide) only [hoptions, List.map_nil, String.join_nil, String.append_empty,
    hdefinitions, requoted_append, requoted_intercalate, requoted_of_unticked,
    requoted_of_unticked hexisting, Dialect.requoted_quote hname]

namespace Dialect

/-- What a dialect compiles for inserts that neither skip rows nor merge into them, for updates
and deletes, for plain batches, and for tables without options and numbered columns differs in the
quotes only, if there are no backticks in the texts of the caller.  Refusals, parameters and the
rows of each chunk are the same. -/
theorem sqlite_eq_requoted :
    (∀ i : Insert, i.verb ≠ .insertIgnore → i.onConflict = none →
        (∀ s ∈ i.trusted, Unticked s) →
        i.build .sqlite = (i.build .mysql).map Statement.requoted)
      ∧ (∀ u : Update, (∀ s ∈ u.trusted, Unticked s) →
          u.build .sqlite = (u.build .mysql).map Statement.requoted)
      ∧ (∀ x : Delete, (∀ s ∈ x.trusted, Unticked s) →
          x.build .sqlite = (x.build .mysql).map Statement.requoted)
      ∧ (∀ b : BatchInsert, b.mode = .insert → (∀ s ∈ b.trusted, Unticked s) →
          ∀ (maxParams : UInt64) (n : Nat),
            (b.compile .sqlite maxParams).map (ChunkCursor.taken n)
              = (b.compile .mysql maxParams).map fun c =>
                  (c.taken n).map fun e => (e.1, e.2.requoted))
      ∧ (∀ t : TableSchema, t.draft.engine = none → t.draft.collation = none →
          (∀ c ∈ t.columns, c.autoIncrement = false) → (∀ s ∈ t.trusted, Unticked s) →
          t.compile .sqlite = Text.requoted (t.compile .mysql)) :=
  ⟨fun _ => Insert.build_sqlite, fun _ => Update.build_sqlite, fun _ => Delete.build_sqlite,
    fun _ => BatchInsert.taken_sqlite, fun _ => TableSchema.compile_sqlite⟩

/-- A row that takes the place of another, with a backtick in its value. -/
def ticked : Insert where
  table := "t"
  row := .ofPairs [("a", .text "\x60")]
  verb := .replace

/-- A table with every constraint but numbers. -/
def unnumbered : TableSchema where
  draft := { name := "t", columns := [⟨"id", "int", false, true, false, false⟩,
    ⟨"b", "text", false, false, true, true⟩] }
  named := by decide +kernel
  nonempty := List.cons_ne_nil _ _

/-- Only quotes around identifiers are others, and not those in values. -/
theorem sqlite_eq_requoted_ticked :
    ticked.build .sqlite = .ok ⟨"REPLACE INTO \"t\" (\"a\") VALUES (?)", [.text "\x60"]⟩
      ∧ Builder.marked.build .sqlite = (Builder.marked.build .mysql).map Statement.requoted
      ∧ (⟨"t", {}⟩ : Delete).build .sqlite = .ok ⟨"DELETE FROM \"t\"", []⟩
      ∧ (∃ c, BatchInsert.threeRows.compile .mysql 5 = .ok c
          ∧ (BatchInsert.threeRows.compile .sqlite 5).map (ChunkCursor.taken 2)
            = .ok ((c.taken 2).map fun e => (e.1, e.2.requoted)))
      ∧ unnumbered.compile .sqlite
        = "CREATE TABLE \"t\" (\"id\" int PRIMARY KEY, \"b\" text NOT NULL UNIQUE)" := by
  obtain ⟨hinsert, hupdate, hdelete, hbatch, htable⟩ := sqlite_eq_requoted
  have hticked : ticked.build .mysql
      = .ok ⟨"REPLACE INTO `t` (`a`) VALUES (?)", [.text "\x60"]⟩ := by rfl
  have hall : (⟨"t", {}⟩ : Delete).build .mysql = .ok ⟨"DELETE FROM `t`", []⟩ := by rfl
  have hunnumbered : unnumbered.compile .mysql
      = "CREATE TABLE `t` (`id` int PRIMARY KEY, `b` text NOT NULL UNIQUE)" := by decide +kernel
  refine ⟨?_, hupdate Builder.marked (by decide +kernel), ?_, ⟨_, rfl, ?_⟩, ?_⟩
  · rw [hinsert ticked (by decide) rfl (by decide +kernel), hticked]
    rfl
  · rw [hdelete _ (by decide +kernel), hall]
    rfl
  · exact hbatch BatchInsert.threeRows rfl (by decide +kernel) 5 2
  · rw [htable unnumbered rfl rfl (by decide) (by decide +kernel), hunnumbered]
    decide +kernel

end Dialect

end BoundSql
