import BoundSql.Schema.Reading
import Mathlib.Data.List.Count

/-!
# The constraints of a created table

A table has one primary key, and SQLite numbers a column only where `AUTOINCREMENT` stands
directly behind `INTEGER PRIMARY KEY`.  A statement that keeps to both is `Lawful`.

Not all definitions of tables are compiled to such statements, and `TableSchema.lawful_iff` says
which are.  A table definition does not look at the marks of its columns, so two of them may be
marked as primary key.  The compiler takes care of a numbered column that is a primary key, and
writes nothing between the key and its numbering.  A numbered column that is none gets the keyword
at the end of its other constraints, where it is not lawful.
-/

namespace BoundSql

/-! ## Constraints of a column -/

namespace Dialect

variable {d : Dialect} {c : ColumnSpec}

theorem count_constraints (k : Constraint) :
    c.constraints.count k = match k with
      | .primaryKey => c.primaryKey.toNat
      | .notNull => c.notNull.toNat
      | .unique => c.unique.toNat
      | .autoIncrement => c.autoIncrement.toNat := by
  obtain ⟨name, type, autoIncrement, primaryKey, notNull, unique⟩ := c
  cases k <;> cases autoIncrement <;> cases primaryKey <;> cases notNull <;> cases unique <;> rfl

/-- The primary key is written once for a column that is marked. -/
theorem count_primaryKey (d : Dialect) (c : ColumnSpec) :
    (d.constraints c).count .primaryKey = c.primaryKey.toNat := by
  cases d with
  | mysql => exact count_constraints .primaryKey
  | sqlite =>
    rw [constraints]
    split
    next hboth =>
      rw [Bool.and_eq_true] at hboth
      rw [hboth.2]
      rfl
    next => exact count_constraints .primaryKey

/-- So is the keyword for a column that is numbered. -/
theorem count_autoIncrement (d : Dialect) (c : ColumnSpec) :
    (d.constraints c).count .autoIncrement = c.autoIncrement.toNat := by
  cases d with
  | mysql => exact count_constraints .autoIncrement
  | sqlite =>
    rw [constraints]
    split
    next hboth =>
      rw [Bool.and_eq_true] at hboth
      rw [hboth.1]
      rfl
    next => exact count_constraints .autoIncrement

theorem mem_primaryKey_iff : .primaryKey ∈ d.constraints c ↔ c.primaryKey := by
  rw [← List.count_pos_iff, count_primaryKey]
  cases c.primaryKey <;> simp

theorem mem_autoIncrement_iff : .autoIncrement ∈ d.constraints c ↔ c.autoIncrement := by
  rw [← List.count_pos_iff, count_autoIncrement]
  cases c.autoIncrement <;> simp

end Dialect

namespace ColumnSpec

variable {c : ColumnSpec}

/-- The constraints that a numbered column has besides. -/
def besides (c : ColumnSpec) : String :=
  (if c.notNull then " NOT NULL" else "") ++ (if c.unique then " UNIQUE" else "")

/-- The definition of a numbered primary key in SQLite, which is all that there is to it. -/
theorem compile_numbered (hnumbered : c.autoIncrement) (hkey : c.primaryKey) :
    c.compile .sqlite = Dialect.sqlite.quote c.name ++ " INTEGER PRIMARY KEY AUTOINCREMENT" := by
  have hconstraints : Dialect.sqlite.constraints c = [.primaryKey, .autoIncrement] := by
    rw [Dialect.constraints, hnumbered, hkey]
    rfl
  rw [compile, Dialect.columnConstraints, hconstraints, if_pos hnumbered]
  simp only [List.map_cons, List.map_nil, List.cons_append, List.nil_append,
    String.intercalate_cons_cons, String.intercalate_singleton, String.append_assoc]
  rfl

/-- The definition of a numbered column in SQLite that is no primary key. -/
theorem compile_numbered_plain (hnumbered : c.autoIncrement) (hplain : c.primaryKey = false) :
    c.compile .sqlite
      = Dialect.sqlite.quote c.name ++ " INTEGER" ++ c.besides ++ " AUTOINCREMENT" := by
  have hconstraints : Dialect.sqlite.constraints c
      = (if c.notNull then [.notNull] else []) ++ (if c.unique then [.unique] else [])
        ++ [.autoIncrement] := by
    rw [Dialect.constraints, constraints, hnumbered, hplain]
    rfl
  rw [compile, Dialect.columnConstraints, hconstraints, if_pos hnumbered, besides]
  cases c.notNull <;> cases c.unique <;>
    simp only [Bool.false_eq_true, if_true, if_false, List.map_cons, List.map_nil, List.cons_append,
      List.nil_append, String.intercalate_cons_cons, String.intercalate_singleton,
      String.append_assoc] <;>
    rfl

/-- In SQLite the keyword for a numbered column stands behind `INTEGER PRIMARY KEY` if and only if
the column is a primary key. -/
theorem exists_compile_numbered_iff (hnumbered : c.autoIncrement) :
    (∃ behind, c.compile .sqlite
        = Dialect.sqlite.quote c.name ++ " INTEGER PRIMARY KEY AUTOINCREMENT" ++ behind)
      ↔ c.primaryKey := by
  cases hkey : c.primaryKey with
  | true => exact iff_of_true ⟨"", (compile_numbered hnumbered hkey).trans
      String.append_empty.symm⟩ rfl
  | false =>
    refine iff_of_false (fun ⟨behind, h⟩ => ?_) Bool.false_ne_true
    rw [compile_numbered_plain hnumbered hkey, String.append_assoc, String.append_assoc,
      String.append_assoc, String.append_right_inj] at h
    -- the texts differ in the letter behind the type
    have hletters := congrArg (fun s => s.toList.take 10) h
    rw [besides] at hletters
    revert hletters
    cases c.notNull <;> cases c.unique <;> simp [String.toList_append]

end ColumnSpec

namespace TableSchema

/-! ## The statement as a whole -/

/-- The parts of a definition make it up again. -/
theorem build_draft (t : TableSchema) : t.draft.build = .ok t := by
  rw [TableDraft.build, dif_pos t.named, dif_pos t.nonempty]

/-- The columns whose definitions say `PRIMARY KEY`. -/
def keys (t : TableSchema) (d : Dialect) : List ColumnSpec :=
  t.columns.filter fun c => .primaryKey ∈ d.constraints c

/-- At most one definition says `PRIMARY KEY`, and in SQLite `AUTOINCREMENT` stands directly
behind `INTEGER PRIMARY KEY` wherever it stands. -/
def Lawful (t : TableSchema) (d : Dialect) : Prop :=
  (t.keys d).length ≤ 1
    ∧ (d = .sqlite → ∀ c ∈ t.columns, .autoIncrement ∈ d.constraints c →
        ∃ behind, c.compile d
          = d.quote c.name ++ " INTEGER PRIMARY KEY AUTOINCREMENT" ++ behind)

theorem keys_eq (t : TableSchema) (d : Dialect) : t.keys d = t.columns.filter (·.primaryKey) := by
  refine List.filter_congr fun c _ => ?_
  simp [Dialect.mem_primaryKey_iff]

/-- Every table definition can be built, and its statement has the definitions of its columns in
order, each with its constraints behind the name and the type.  It is lawful if and only if at
most one column is marked as primary key, and in SQLite each numbered column is.  There the keyword
of any other numbered column stands behind `INTEGER`, or behind the constraints that the column
has besides. -/
theorem lawful_iff (t : TableSchema) (d : Dialect) :
    t.draft.build = .ok t
      ∧ (∃ front behind, t.compile d
        = front ++ " (" ++ String.intercalate ", " (t.columns.map (·.compile d)) ++ ")" ++ behind)
      ∧ (∀ c ∈ t.columns, c.compile d = String.intercalate " "
          (d.quote c.name :: (if c.autoIncrement then d.autoIncrementType c.type else c.type)
            :: (d.constraints c).map d.keyword))
      ∧ (t.Lawful d ↔ (t.columns.filter (·.primaryKey)).length ≤ 1
          ∧ (d = .sqlite → ∀ c ∈ t.columns, c.autoIncrement → c.primaryKey))
      ∧ (d = .sqlite → ∀ c ∈ t.columns, c.autoIncrement → c.compile d
          = d.quote c.name ++ " INTEGER"
            ++ (if c.primaryKey then " PRIMARY KEY" else c.besides) ++ " AUTOINCREMENT") := by
  refine ⟨t.build_draft, ⟨_, _, rfl⟩, fun c _ => rfl, ?_, ?_⟩
  · rw [Lawful, keys_eq]
    refine and_congr_right' (forall_congr' fun hsqlite => forall₂_congr fun c _ => ?_)
    subst hsqlite
    rw [Dialect.mem_autoIncrement_iff]
    exact forall_congr' ColumnSpec.exists_compile_numbered_iff
  · rintro rfl c _ hnumbered
    cases hkey : c.primaryKey with
    | true =>
      rw [ColumnSpec.compile_numbered hnumbered hkey, if_pos rfl, String.append_assoc,
        String.append_assoc]
      rfl
    | false =>
      rw [ColumnSpec.compile_numbered_plain hnumbered hkey, if_neg Bool.false_ne_true]

/-- A table with a numbered column that is no primary key. -/
def numberedPlain : TableSchema where
  draft := { name := "t", columns := [⟨"n", "int", true, false, false, false⟩] }
  named := by decide +kernel
  nonempty := List.cons_ne_nil _ _

/-- A table with two primary keys. -/
def twoKeys : TableSchema where
  draft := { name := "t", columns := [⟨"a", "int", false, true, false, false⟩,
    ⟨"b", "int", false, true, false, false⟩] }
  named := by decide +kernel
  nonempty := List.cons_ne_nil _ _

/-- Both definitions are accepted on both ways.  The first one is not lawful in SQLite, and the
second one nowhere. -/
theorem not_lawful_numberedPlain :
    numberedPlain.draft.build = .ok numberedPlain
      ∧ (ofJson ("\x7b\"name\":\"t\",\"columns\":[\x7b\"name\":\"n\",\"auto_increment\":true\x7d"
            ++ "]\x7d")).toOption = some numberedPlain
      ∧ numberedPlain.compile .sqlite = "CREATE TABLE \"t\" (\"n\" INTEGER AUTOINCREMENT)"
      ∧ ¬ numberedPlain.Lawful .sqlite ∧ numberedPlain.Lawful .mysql
      ∧ (ofJson ("\x7b\"name\":\"t\",\"columns\":[\x7b\"name\":\"a\",\"primary_key\":true\x7d,"
            ++ "\x7b\"name\":\"b\",\"primary_key\":true\x7d]\x7d")).toOption = some twoKeys
      ∧ twoKeys.compile .mysql = "CREATE TABLE `t` (`a` int PRIMARY KEY, `b` int PRIMARY KEY)"
      ∧ ¬ twoKeys.Lawful .sqlite ∧ ¬ twoKeys.Lawful .mysql := by
  obtain ⟨hbuild, _, _, hsqlite, _⟩ := numberedPlain.lawful_iff .sqlite
  obtain ⟨_, _, _, hmysql, _⟩ := numberedPlain.lawful_iff .mysql
  have htwo : ∀ d, ¬ twoKeys.Lawful d := fun d hlawful => by
    obtain ⟨_, _, _, hiff, _⟩ := twoKeys.lawful_iff d
    exact absurd (hiff.mp hlawful).1 (by decide)
  refine ⟨hbuild, by decide +kernel, by decide +kernel, fun hlawful => ?_,
    hmysql.mpr ⟨by decide, nofun⟩, by decide +kernel, by decide +kernel,
    htwo .sqlite, htwo .mysql⟩
  cases (hsqlite.mp hlawful).2 rfl _ List.mem_cons_self rfl

end TableSchema

end BoundSql
