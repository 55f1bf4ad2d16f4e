import BoundSql.Proofs.Batch.Requirement
import BoundSql.Proofs.Clause.Cut
import Mathlib.Data.List.Nodup

/-!
# Merging into existing rows

The clause that merges into existing rows is a list of assignments.  Each sets a column to a
sum of values, and these are values of the row that is there or of the one that is inserted.
The assignments can be read back from the text as long as no name has the quote of the
dialect in it (`Clause.merges?_text`).

A policy has one assignment for every time that it names a column.  A validated policy names
no column in both of its lists, but nothing keeps a list from naming a column twice, and then
the column is assigned twice (`UpsertPolicy.merged_once_iff`).
-/

namespace BoundSql

/-- The character around identifiers. -/
def Dialect.identifierMark : Dialect → Char
  | .mysql => '\x60'
  | .sqlite => '"'

namespace Clause

/-! ## Assignments -/

/-- A value that goes into a column. -/
inductive Summand where
  /-- What the row that is there has in a column. -/
  | old (column : String)
  /-- What the inserted row has in a column. -/
  | inserted (column : String)
deriving DecidableEq, Repr

/-- A column that is set to a sum. -/
structure Merge where
  column : String
  summands : List Summand
deriving DecidableEq, Repr

section

variable (d : Dialect)

def Summand.text : Summand → String
  | old c => d.quote c
  | inserted c => d.insertedValue c

def Merge.text (m : Merge) : String :=
  d.quote m.column ++ " = " ++ String.intercalate " + " (m.summands.map (Summand.text d))

/-! ## Reading assignments -/

/-- A mark that separates. -/
def markSeparator (c : Char) : Separator where
  cuts t := t = .mark c
  deepen_eq {t} n h := by
    cases of_decide_eq_true h
    rfl

def column? : Token → Option String
  | .quoted quote c => if quote = d.identifierMark then some c else none
  | _ => none

def Summand.ofTokens? : List Token → Option Summand
  | [t] => (column? d t).map old
  | [.word w, .opening, t, .closing] =>
      if d = .mysql ∧ w = "VALUES" then (column? d t).map inserted else none
  | [.word w, .mark '.', t] =>
      if d = .sqlite ∧ w = "excluded" then (column? d t).map inserted else none
  | _ => none

def Merge.ofTokens? : List Token → Option Merge
  | t :: .mark '=' :: ts => do
      let column ← column? d t
      let summands ← (cut (markSeparator '+') 0 ts).mapM (Summand.ofTokens? d)
      pure ⟨column, summands⟩
  | _ => none

/-- The assignments of a text. -/
def merges? (s : String) : Option (List Merge) := do
  let ts ← tokens? true s
  (cut (markSeparator ',') 0 ts).mapM (Merge.ofTokens? d)

/-! ## Tokens of assignments -/

def columnToken (c : String) : Token := .quoted d.identifierMark c

def Summand.tokens : Summand → List Token
  | old c => [columnToken d c]
  | inserted c => match d with
      | .mysql => [.word "VALUES", .opening, columnToken d c, .closing]
      | .sqlite => [.word "excluded", .mark '.', columnToken d c]

def Merge.tokens (m : Merge) : List Token :=
  columnToken d m.column :: .mark '=' :: [.mark '+'].intercalate (m.summands.map (Summand.tokens d))

/-- A name that can be told from the quotes around it. -/
def Named (c : String) : Prop := d.identifierMark ∉ c.toList

def Summand.column : Summand → String
  | old c => c
  | inserted c => c

def Merge.Named (m : Merge) : Prop :=
  Clause.Named d m.column ∧ ∀ x ∈ m.summands, Clause.Named d x.column

variable {d}

theorem tokens?_quote {c : String} (h : Named d c) :
    tokens? true (d.quote c) = some [columnToken d c] := by
  have hclosed : readFrom true (.quoted d.identifierMark []) (c.toList ++ [d.identifierMark])
      = some [columnToken d c] := by
    rw [readFrom_quoted h [] rfl, List.nil_append, String.ofList_toList]
    rfl
  have hlist : (d.quote c).toList = d.identifierMark :: (c.toList ++ [d.identifierMark]) := by
    rw [Dialect.quote, String.toList_append, String.toList_append]
    cases d <;> rfl
  rw [tokens?, hlist]
  cases d <;>
  · show (readFrom true (.quoted _ []) _).map ([] ++ ·) = _
    rw [show readFrom true (.quoted _ []) _ = _ from hclosed]
    rfl

theorem Summand.tokens?_text {x : Summand} (h : Named d x.column) :
    tokens? true (x.text d) = some (x.tokens d) := by
  cases x with
  | old c => exact tokens?_quote h
  | inserted c =>
    cases d with
    | mysql =>
      have hword : tokens? true "VALUES" = some [.word "VALUES"] := by decide +kernel
      have hargument := tokens?_parenthesized (tokens?_quote h)
      rw [String.append_assoc] at hargument
      show tokens? true ("VALUES(" ++ _ ++ ")") = _
      rw [show "VALUES(" = "VALUES" ++ "(" from rfl, String.append_assoc, String.append_assoc]
      exact tokens?_append (String.toList_append ..) (by decide) hword hargument
    | sqlite =>
      have hword : tokens? true "excluded" = some [.word "excluded"] := by decide +kernel
      have hmember := tokens?_mark (c := '.') (by decide) rfl (tokens?_quote h)
      show tokens? true ("excluded." ++ _) = _
      rw [show "excluded." = "excluded" ++ String.singleton '.' from rfl, String.append_assoc]
      exact tokens?_append (String.toList_append ..) (by decide) hword hmember

theorem Merge.tokens?_text {m : Merge} (h : m.Named d) :
    tokens? true (m.text d) = some (m.tokens d) := by
  have hplus : tokens? true "+" = some [.mark '+'] := by decide +kernel
  have hequals : tokens? true "=" = some [.mark '='] := by decide +kernel
  have hsummands := tokens?_intercalate (tokens?_between hplus) fun x hx =>
    Summand.tokens?_text (h.2 x hx)
  have htext : m.text d = d.quote m.column ++ (" " ++ "=" ++ " ")
      ++ String.intercalate (" " ++ "+" ++ " ") (m.summands.map (Summand.text d)) := rfl
  rw [htext, tokens?_between hequals (tokens?_quote h.1) hsummands]
  rfl

/-! ## Reading what is written -/

theorem column?_columnToken (c : String) : column? d (columnToken d c) = some c := if_pos rfl

theorem Summand.ofTokens?_tokens (x : Summand) : ofTokens? d (x.tokens d) = some x := by
  cases x with
  | old c =>
    show (column? d (columnToken d c)).map old = _
    rw [column?_columnToken]
    rfl
  | inserted c => cases d <;> simp [tokens, ofTokens?, column?_columnToken]

theorem whole_columnToken (c : Char) (name : String) :
    Whole (markSeparator c) [columnToken d name] :=
  whole_singleton (by simp [markSeparator, columnToken]) rfl

theorem whole_mark {c e : Char} (h : e ≠ c) : Whole (markSeparator c) [.mark e] :=
  whole_singleton (by simp [markSeparator, h]) rfl

theorem whole_word (c : Char) (w : String) : Whole (markSeparator c) [.word w] :=
  whole_singleton (by simp [markSeparator]) rfl

/-- A summand is in one piece. -/
theorem Summand.whole_tokens {c : Char} (hdot : '.' ≠ c) (x : Summand) :
    Whole (markSeparator c) (x.tokens d) := by
  cases x with
  | old name => exact whole_columnToken c name
  | inserted name =>
    cases d with
    | mysql =>
      have hargument : Balanced [columnToken .mysql name] := (whole_columnToken c name).balanced
      exact (whole_word c "VALUES").append (whole_enclose hargument)
    | sqlite =>
      exact ((whole_word c "excluded").append (whole_mark hdot)).append (whole_columnToken c name)

theorem Merge.whole_tokens (m : Merge) : Whole (markSeparator ',') (m.tokens d) :=
  ((whole_columnToken ',' m.column).append (whole_mark (by decide))).append
    (whole_intercalate (whole_mark (by decide)) fun x _ => x.whole_tokens (by decide))

theorem Merge.ofTokens?_tokens {m : Merge} (h : m.summands ≠ []) :
    ofTokens? d (m.tokens d) = some m := by
  have hplus : (markSeparator '+').cuts (.mark '+') := by decide
  have hcut := (cut_intercalate hplus h fun x _ => x.whole_tokens (d := d) (by decide)).2
  rw [tokens, ofTokens?, column?_columnToken, hcut]
  show (List.mapM _ _ >>= fun summands => some (Merge.mk m.column summands)) = _
  rw [mapM_eq_some fun x _ => x.ofTokens?_tokens, List.map_id']
  rfl

/-- Assignments are read back from their text. -/
theorem merges?_text {ms : List Merge} (hne : ms ≠ [])
    (h : ∀ m ∈ ms, m.summands ≠ [] ∧ m.Named d) :
    merges? d (String.intercalate ", " (ms.map (Merge.text d))) = some ms := by
  have hcomma : (markSeparator ',').cuts (.mark ',') := by decide
  have htokens := tokens?_intercalate tokens?_comma fun m hm => Merge.tokens?_text (h m hm).2
  have hcut := (cut_intercalate hcomma hne fun m _ => m.whole_tokens (d := d)).2
  rw [merges?, htokens]
  show (cut _ 0 _).mapM _ = _
  rw [hcut, mapM_eq_some fun m hm => Merge.ofTokens?_tokens (h m hm).1, List.map_id']

end

end Clause

/-! ## Policies -/

namespace UpsertPolicy

open Clause (Merge)

/-- The assignments of a policy. -/
def merges (p : UpsertPolicy) : List Merge :=
  p.updated.map (fun c => ⟨c, [.inserted c]⟩)
    ++ p.incremented.map fun c => ⟨c, [.old c, .inserted c]⟩

variable {p : UpsertPolicy} {inserted : List String}

theorem map_column_merges (p : UpsertPolicy) : p.merges.map Merge.column = p.columns := by
  simp [merges, columns, Function.comp_def]

/-- The clause of a policy is made of its assignments. -/
theorem renderUpsert_eq (p : UpsertPolicy) (d : Dialect) (conflict : List String) :
    d.renderUpsert conflict p
      = d.upsertHead conflict ++ String.intercalate ", " (p.merges.map (Merge.text d)) := by
  have hupdated : ∀ c, d.updateAssignment c = Merge.text d ⟨c, [.inserted c]⟩ := fun c => by
    rw [Merge.text, List.map_singleton, String.intercalate_singleton]
    rfl
  have hincremented : ∀ c, d.incrementAssignment c = Merge.text d ⟨c, [.old c, .inserted c]⟩ := by
    intro c
    rw [Merge.text, List.map_cons, List.map_singleton, String.intercalate_cons_cons,
      String.intercalate_singleton, Dialect.incrementAssignment]
    simp only [String.append_assoc]
    rfl
  rw [Dialect.renderUpsert, Dialect.upsertClause, merges, List.map_append, List.map_map,
    List.map_map, funext hupdated, funext hincremented]
  rfl

/-- What a policy names with its quotes is all that stands in its assignments. -/
theorem named_merges {d : Dialect} (h : ∀ c ∈ p.columns, Clause.Named d c) {m : Merge}
    (hm : m ∈ p.merges) : m.summands ≠ [] ∧ m.Named d := by
  have hcolumn : Clause.Named d m.column :=
    h m.column (map_column_merges p ▸ List.mem_map_of_mem hm)
  cases List.mem_append.mp hm with
  | inl hm =>
    obtain ⟨c, _, rfl⟩ := List.mem_map.mp hm
    exact ⟨List.cons_ne_nil _ _, hcolumn, by simpa [Clause.Summand.column] using hcolumn⟩
  | inr hm =>
    obtain ⟨c, _, rfl⟩ := List.mem_map.mp hm
    exact ⟨List.cons_ne_nil _ _, hcolumn, by simpa [Clause.Summand.column] using hcolumn⟩

/-- What is read in the clause of a validated policy: inserted columns that take the inserted
value, or in which it is added.  Every column is assigned once if and only if none is named
twice in a list. -/
theorem merged_once_iff (h : p.validate inserted = .ok ()) (d : Dialect) (conflict : List String) :
    d.renderUpsert conflict p
        = d.upsertHead conflict ++ String.intercalate ", " (p.merges.map (Merge.text d))
      ∧ ((∀ c ∈ p.columns, Clause.Named d c) →
          Clause.merges? d (String.intercalate ", " (p.merges.map (Merge.text d))) = some p.merges)
      ∧ (∀ m ∈ p.merges, m.column ∈ inserted
          ∧ (m.column ∈ p.updated ∧ m.column ∉ p.incremented
              ∧ m.summands = [.inserted m.column]
            ∨ m.column ∈ p.incremented ∧ m.column ∉ p.updated
              ∧ m.summands = [.old m.column, .inserted m.column]))
      ∧ (∀ c, (p.merges.map Merge.column).count c = p.columns.count c)
      ∧ ((∀ c ∈ p.columns, (p.merges.map Merge.column).count c = 1)
          ↔ p.updated.Nodup ∧ p.incremented.Nodup) := by
  obtain ⟨hne, hdisjoint, hinserted⟩ := validate_eq_ok.mp h
  refine ⟨renderUpsert_eq p d conflict, fun hnamed => ?_, fun m hm => ?_, fun c => ?_, ?_⟩
  · refine Clause.merges?_text (fun hnil => hne ?_) fun m hm => named_merges hnamed hm
    rw [← map_column_merges, hnil, List.map_nil]
  · have hcolumn : m.column ∈ p.columns := map_column_merges p ▸ List.mem_map_of_mem hm
    refine ⟨hinserted _ hcolumn, ?_⟩
    cases List.mem_append.mp hm with
    | inl hm =>
      obtain ⟨c, hc, rfl⟩ := List.mem_map.mp hm
      exact .inl ⟨hc, fun hc' => hdisjoint c hc' hc, rfl⟩
    | inr hm =>
      obtain ⟨c, hc, rfl⟩ := List.mem_map.mp hm
      exact .inr ⟨hc, hdisjoint c hc, rfl⟩
  · rw [map_column_merges]
  · rw [map_column_merges, ← List.nodup_iff_count_eq_one, columns, List.nodup_append]
    refine ⟨fun h => ⟨h.1, h.2.1⟩, fun h => ⟨h.1, h.2, ?_⟩⟩
    rintro c hc _ hc' rfl
    exact hdisjoint c hc' hc

/-- The same counter twice, by two calls. -/
def twice : UpsertPolicy := (increment {} ["n"]).increment ["n"]

theorem merged_once_iff_twice :
    twice.validate ["id", "n"] = .ok ()
      ∧ Dialect.mysql.renderUpsert ["id"] twice
        = "ON DUPLICATE KEY UPDATE `n` = `n` + VALUES(`n`), `n` = `n` + VALUES(`n`)"
      ∧ Clause.merges? .mysql "`n` = `n` + VALUES(`n`), `n` = `n` + VALUES(`n`)"
        = some [⟨"n", [.old "n", .inserted "n"]⟩, ⟨"n", [.old "n", .inserted "n"]⟩]
      ∧ ¬ ∀ c ∈ twice.columns, (twice.merges.map Merge.column).count c = 1 := by
  have hvalidated : twice.validate ["id", "n"] = .ok () := rfl
  have hnamed : ∀ c ∈ twice.columns, Clause.Named .mysql c := by
    simp only [twice, increment, columns, List.nil_append, List.cons_append, List.mem_cons,
      List.not_mem_nil, or_false, or_self, forall_eq, Clause.Named]
    decide
  obtain ⟨hclause, hread, _, _, hiff⟩ := merged_once_iff hvalidated .mysql ["id"]
  refine ⟨hvalidated, hclause.trans (by decide +kernel), ?_, fun honce => ?_⟩
  · exact (congrArg (Clause.merges? .mysql) (by decide +kernel)).trans (hread hnamed)
  · exact absurd (hiff.mp honce).2 (by decide)

end UpsertPolicy

end BoundSql
