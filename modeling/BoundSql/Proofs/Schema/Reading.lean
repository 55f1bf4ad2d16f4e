import BoundSql.Proofs.Json.Record
import BoundSql.Proofs.Json.Written
import BoundSql.Schema.Reading

/-!
# Reading table definitions

`TableDraft.Written t j` says that the document `j` has the parts `t` of a table.  It is an object
or an array, its columns are objects or arrays, and parts that have their default value may be
missing.  Any text of such a document is read as the builder builds the same parts
(`TableSchema.ofJson_agrees`): there is the same definition, or the same refusal.
-/

namespace BoundSql

open Json (Entry RecordOf Reads for_field getD_of_known isSome_of_known reads_flag reads_text
  reads_text?)

/-! ## Documents -/

/-- The fields of a column. -/
def ColumnSpec.entries (c : ColumnSpec) : List Entry :=
  [{ name := "name", spelled := (· = .string c.name) },
   { name := "type", spelled := (· = .string c.type), optional := c.type = "int" },
   { name := "auto_increment", spelled := (· = .bool c.autoIncrement),
     optional := c.autoIncrement = false },
   { name := "primary_key", spelled := (· = .bool c.primaryKey), optional := c.primaryKey = false },
   { name := "not_null", spelled := (· = .bool c.notNull), optional := c.notNull = false },
   { name := "unique", spelled := (· = .bool c.unique), optional := c.unique = false }]

/-- The document has the parts of the column. -/
def ColumnSpec.Written (c : ColumnSpec) : Json → Prop := RecordOf c.entries

/-- The fields of a table. -/
def TableDraft.entries (t : TableDraft) : List Entry :=
  [{ name := "name", spelled := (· = .string t.name) },
   { name := "columns",
     spelled := fun j => ∃ js, j = .array js ∧ List.Forall₂ ColumnSpec.Written t.columns js },
   { name := "if_not_exists", spelled := (· = .bool t.ifNotExists),
     optional := t.ifNotExists = false },
   { name := "engine", spelled := (· = Json.ofText? t.engine), optional := t.engine = none },
   { name := "collation", spelled := (· = Json.ofText? t.collation),
     optional := t.collation = none }]

/-- The document has the parts of the table. -/
def TableDraft.Written (t : TableDraft) : Json → Prop := RecordOf t.entries

/-! ## Drafts -/

/-- The draft of a column of which the fields of the given names are known. -/
def ColumnSpec.known (c : ColumnSpec) (names : List String) : ColumnDraft where
  name := if "name" ∈ names then some c.name else none
  type := if "type" ∈ names then some c.type else none
  autoIncrement := if "auto_increment" ∈ names then some c.autoIncrement else none
  primaryKey := if "primary_key" ∈ names then some c.primaryKey else none
  notNull := if "not_null" ∈ names then some c.notNull else none
  unique := if "unique" ∈ names then some c.unique else none

theorem ColumnSpec.shape_follows (c : ColumnSpec) :
    ColumnSpec.shape.Follows c.entries c.known c where
  start := rfl
  fields := by
    refine .cons (for_field (fun _ => isSome_of_known _) (reads_text _) ?_) <|
      .cons (for_field (fun _ => isSome_of_known _) (reads_text _) ?_) <|
      .cons (for_field (fun _ => isSome_of_known _) (reads_flag _) ?_) <|
      .cons (for_field (fun _ => isSome_of_known _) (reads_flag _) ?_) <|
      .cons (for_field (fun _ => isSome_of_known _) (reads_flag _) ?_) <|
      .cons (for_field (fun _ => isSome_of_known _) (reads_flag _) ?_) .nil
    all_goals simp [ColumnSpec.known]
  complete := by
    intro missing names h
    simp only [ColumnSpec.entries, List.forall_mem_cons] at h
    obtain ⟨hname, htype, hauto, hprimary, hnull, hunique, -⟩ := h
    show ColumnDraft.complete missing (c.known names) = .ok c
    have hknown : (c.known names).name = some c.name := if_pos (Decidable.not_not.mp hname)
    rw [ColumnDraft.complete, hknown]
    simp only [ColumnSpec.known, getD_of_known htype, getD_of_known hauto,
      getD_of_known hprimary, getD_of_known hnull, getD_of_known hunique]

/-- A column is read from each of its documents. -/
theorem ColumnSpec.reads {c : ColumnSpec} {j : Json} (h : c.Written j) (budget : Nat) :
    Reads budget (ColumnSpec.shape.read budget) j c :=
  Json.reads_record c.shape_follows h budget

/-- The draft of a table of which the fields of the given names are known. -/
def TableDraft.known (t : TableDraft) (names : List String) : TableReading where
  name := if "name" ∈ names then some t.name else none
  columns := if "columns" ∈ names then some t.columns else none
  ifNotExists := if "if_not_exists" ∈ names then some t.ifNotExists else none
  engine := if "engine" ∈ names then some t.engine else none
  collation := if "collation" ∈ names then some t.collation else none

theorem TableDraft.reads_columns (t : TableDraft) (budget : Nat) (j : Json)
    (h : ∃ js, j = .array js ∧ List.Forall₂ ColumnSpec.Written t.columns js) :
    Reads budget (Json.readArray budget (ColumnSpec.shape.read budget)) j t.columns := by
  obtain ⟨js, rfl, hjs⟩ := h
  exact Json.reads_readArray (hjs.flip.imp fun _ _ hc => ColumnSpec.reads hc budget)

theorem TableDraft.shape_follows (t : TableDraft) :
    TableDraft.shape.Follows t.entries t.known t where
  start := rfl
  fields := by
    refine .cons (for_field (fun _ => isSome_of_known _) (reads_text _) ?_) <|
      .cons (for_field (fun _ => isSome_of_known _) t.reads_columns ?_) <|
      .cons (for_field (fun _ => isSome_of_known _) (reads_flag _) ?_) <|
      .cons (for_field (fun _ => isSome_of_known _) (reads_text? _) ?_) <|
      .cons (for_field (fun _ => isSome_of_known _) (reads_text? _) ?_) .nil
    all_goals simp [TableDraft.known]
  complete := by
    intro missing names h
    simp only [TableDraft.entries, List.forall_mem_cons] at h
    obtain ⟨hname, hcolumns, hexists, hengine, hcollation, -⟩ := h
    show TableReading.complete missing (t.known names) = .ok t
    have hname' : (t.known names).name = some t.name := if_pos (Decidable.not_not.mp hname)
    have hcolumns' : (t.known names).columns = some t.columns :=
      if_pos (Decidable.not_not.mp hcolumns)
    rw [TableReading.complete, hname', hcolumns']
    simp only [TableDraft.known, getD_of_known hexists, getD_of_known hengine,
      getD_of_known hcollation]

/-! ## Building -/

/-- The parts, put together by the builder one after the other. -/
def TableDraft.assembled (t : TableDraft) : TableDraft :=
  let u := t.columns.foldl TableDraft.column { name := t.name }
  let u := if t.ifNotExists then u.keepExisting else u
  let u := t.engine.elim u u.withEngine
  t.collation.elim u u.withCollation

theorem TableDraft.foldl_column (t : TableDraft) (cs : List ColumnSpec) :
    cs.foldl TableDraft.column t = { t with columns := t.columns ++ cs } := by
  induction cs generalizing t with
  | nil => rw [List.foldl_nil, List.append_nil]
  | cons c cs ih =>
    rw [List.foldl_cons, ih]
    simp [TableDraft.column]

theorem TableDraft.assembled_eq (t : TableDraft) : t.assembled = t := by
  obtain ⟨name, columns, ifNotExists, engine, collation⟩ := t
  rw [assembled, foldl_column]
  cases ifNotExists <;> cases engine <;> cases collation <;> rfl

/-- A whole text of a document with the parts is read as the builder builds them. -/
theorem TableSchema.ofJson_of_written {t : TableDraft} {j : Json} {s : String} (h : t.Written j)
    (hs : j.SpelledBy s) :
    TableSchema.ofJson s = t.build.mapError fun refusal => .mismatch (.refused refusal) := by
  obtain ⟨rest, hspelled, hrest⟩ := hs
  have hread := Json.reads_record t.shape_follows h s.toList.length _ _ (Nat.le_refl _) hspelled
  rw [TableSchema.ofJson, Json.readText, TableSchema.read, Json.bind_of_ok hread]
  cases hbuild : t.build with
  | ok schema => exact if_pos hrest
  | error refusal => rfl

/-- A text of a document with some parts of a table, and the builder with the same parts, give the
same definition or the same refusal.  A blank name is refused before missing columns are. -/
theorem TableSchema.ofJson_agrees (t : TableDraft) (j : Json) (s : String) (h : t.Written j)
    (hs : j.SpelledBy s) :
    TableSchema.ofJson s
        = t.assembled.build.mapError (fun refusal => .mismatch (.refused refusal))
      ∧ (Text.isBlankText t.name = true →
          t.assembled.build = .error .missingTable
            ∧ TableSchema.ofJson s = .error (.mismatch (.refused .missingTable)))
      ∧ (Text.isBlankText t.name = false → t.columns = [] →
          t.assembled.build = .error (.noColumns t.name)
            ∧ TableSchema.ofJson s = .error (.mismatch (.refused (.noColumns t.name))))
      ∧ (Text.isBlankText t.name = false → t.columns ≠ [] →
          ∃ schema, t.assembled.build = .ok schema ∧ schema.draft = t
            ∧ TableSchema.ofJson s = .ok schema)
      ∧ ∀ d, (TableSchema.ofJson s).toOption.map (·.compile d)
          = t.assembled.build.toOption.map (·.compile d) := by
  rw [t.assembled_eq, TableSchema.ofJson_of_written h hs]
  refine ⟨rfl, fun hblank => ?_, fun hnamed hempty => ?_, fun hnamed hcolumns => ?_, fun d => ?_⟩
  · have hbuild : t.build = .error .missingTable := dif_neg (by simp [hblank])
    rw [hbuild]
    exact ⟨rfl, rfl⟩
  · have hbuild : t.build = .error (.noColumns t.name) := by
      rw [TableDraft.build, dif_pos hnamed, dif_neg (by simp [hempty])]
    rw [hbuild]
    exact ⟨rfl, rfl⟩
  · have hbuild : t.build = .ok ⟨t, hnamed, hcolumns⟩ := by
      rw [TableDraft.build, dif_pos hnamed, dif_pos hcolumns]
    rw [hbuild]
    exact ⟨_, rfl, rfl, rfl⟩
  · cases t.build <;> rfl

/-- An object with a column that is an object and one that is an array, and members that nobody
asked for. -/
def scatteredTable : Json :=
  .object [("note", .null), ("if_not_exists", .bool true), ("engine", .null),
    ("columns", .array [
      .object [("primary_key", .bool true), ("note", .string "\"key\""), ("name", .string "id")],
      .array [.string "a", .string "text"]]),
    ("note", .bool false), ("name", .string "events")]

/-- The parts of the table. -/
def scatteredDraft : TableDraft where
  name := "events"
  columns := [{ name := "id", primaryKey := true }, { name := "a", type := "text" }]
  ifNotExists := true

/-- The definition with these parts. -/
def scatteredSchema : TableSchema := ⟨scatteredDraft, by decide +kernel, by decide⟩

theorem TableSchema.ofJson_agrees_scatteredTable :
    scatteredDraft.assembled.build = .ok scatteredSchema
      ∧ TableSchema.ofJson scatteredTable.compact = .ok scatteredSchema
      ∧ scatteredSchema.compile .sqlite
        = "CREATE TABLE IF NOT EXISTS \"events\" (\"id\" int PRIMARY KEY, \"a\" text)" := by
  have hid : ColumnSpec.Written { name := "id", primaryKey := true }
      (.object [("primary_key", .bool true), ("note", .string "\"key\""),
        ("name", .string "id")]) := by
    refine .object ⟨by decide +kernel, ?_, ?_, ?_⟩
    · simp [Entry.of?, ColumnSpec.entries, Entry.hasName]
    · simp [Entry.of?, ColumnSpec.entries, Entry.hasName, Json.Unread.string]
    · simp [Entry.met, Entry.of?, ColumnSpec.entries, Entry.hasName]
  have ha : ColumnSpec.Written { name := "a", type := "text" }
      (.array [.string "a", .string "text"]) :=
    .array (.item rfl (.item rfl (.missing (by simp))))
  have hwritten : scatteredDraft.Written scatteredTable := by
    refine .object ⟨by decide +kernel, ?_, ?_, ?_⟩
    · simp [Entry.of?, TableDraft.entries, Entry.hasName, scatteredDraft, Json.ofText?, hid, ha]
    · simp [Entry.of?, TableDraft.entries, Entry.hasName, Json.Unread.null, Json.Unread.bool]
    · simp [Entry.met, Entry.of?, TableDraft.entries, Entry.hasName, scatteredDraft]
  have hintegral : scatteredTable.Integral := by
    refine .object ?_
    simp only [List.forall_mem_cons]
    refine ⟨.null, .bool _, .null, .array ?_, .bool _, .string _, List.forall_mem_nil _⟩
    simp only [List.forall_mem_cons]
    refine ⟨.object ?_, .array ?_, List.forall_mem_nil _⟩
    · simp only [List.forall_mem_cons]
      exact ⟨.bool _, .string _, .string _, List.forall_mem_nil _⟩
    · simp only [List.forall_mem_cons]
      exact ⟨.string _, .string _, List.forall_mem_nil _⟩
  obtain ⟨-, -, -, hbuild, -⟩ := TableSchema.ofJson_agrees scatteredDraft scatteredTable _ hwritten
    (Json.spelledBy_compact hintegral)
  obtain ⟨⟨draft, _, _⟩, hschema, rfl, hread⟩ := hbuild scatteredSchema.named (by decide)
  exact ⟨hschema, hread, by decide +kernel⟩

end BoundSql
