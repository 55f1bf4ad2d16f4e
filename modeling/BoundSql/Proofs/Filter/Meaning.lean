import BoundSql.Proofs.Clause.Condition
import BoundSql.Proofs.Filter

/-!
# Meanings of filters

A filter says that its conjuncts all hold, or any of its alternatives (`Filter.holds`).  The
text it is compiled to says the same when it is read as a condition, with `AND` binding
tighter than `OR` (`Filter.compile_means`).

Filters are trusted with texts, which could be anything.  What is asked of them is that they
are *readable*: columns have neither parentheses nor connectives, trusted texts are
conditions, and those among the conjuncts have no `OR` at their top level.  A conjunct stands
in the condition without parentheses, so an `OR` there would take it apart.

Atoms are compared by their tokens.  Behind placeholders comparisons with different values
look alike, so the theorem is about any text in the place of the values.
-/

namespace BoundSql

open Clause (Token Connective Plain Means Undivided tokens?)

variable {quotes : Bool} {write : Value → String}

/-! ## Predicates -/

namespace Predicate

/-- What is asked of a predicate for its text to be readable. -/
def Readable (quotes : Bool) : Predicate → Prop
  | .raw sql => (Clause.Condition.ofText? quotes sql).isSome
  | .compare column _ _ => Plain quotes column

/-- The truth of a predicate.  A comparison is one atom. -/
def holds (quotes : Bool) (write : Value → String) (p : Predicate) (truth : List Token → Bool) :
    Bool :=
  match p with
  | .raw sql => (Clause.Condition.ofText? quotes sql).any fun c => c.eval truth
  | .compare column operator value =>
      (tokens? quotes (spelled (.compare column operator value) write)).any truth

theorem tokens?_symbol (quotes : Bool) (op : Operator) :
    ∃ ts, tokens? quotes op.symbol = some ts ∧ ts ≠ [] ∧ ∀ t ∈ ts, t.isPlain := by
  cases op <;> cases quotes <;> exact ⟨_, rfl, List.cons_ne_nil _ _, by decide +kernel⟩

/-- Whatever is compared with, there is no connective outside of parentheses. -/
theorem unjoined_spelledOperand (hwrite : ∀ v, Plain quotes (write v)) (op : Operator)
    (value : Value) :
    ∃ us, tokens? quotes (spelledOperand write op value) = some us ∧ Clause.Unjoined us := by
  unfold spelledOperand
  by_cases hnull : op.isNullCheck
  · rw [if_pos hnull]
    exact ⟨[.word "NULL"], by cases quotes <;> rfl, Clause.unjoined_plain (by decide +kernel)⟩
  · rw [if_neg hnull]
    cases value with
    | list items =>
      have hitems : Plain quotes (String.intercalate ", " (items.map write)) := by
        refine Clause.plain_intercalate fun s hs => ?_
        obtain ⟨v, _, rfl⟩ := List.mem_map.mp hs
        exact hwrite v
      obtain ⟨us, hus, hplain⟩ := hitems
      have hbalanced : Clause.Balanced us := (Clause.unjoined_plain hplain .and).balanced
      exact ⟨Clause.enclose us, Clause.tokens?_parenthesized hus, Clause.unjoined_enclose hbalanced⟩
    | null | bool | int | float | text | blob =>
      obtain ⟨us, hus, hplain⟩ := hwrite _
      exact ⟨us, hus, Clause.unjoined_plain hplain⟩

/-- A comparison is read as one atom. -/
theorem conjoins_comparison (hwrite : ∀ v, Plain quotes (write v)) {column : String}
    (hcolumn : Plain quotes column) (op : Operator) (value : Value) :
    ∃ ts, tokens? quotes (spelledComparison write column value (some op)) = some ts
      ∧ Clause.Conjoins ts [.atom ts] := by
  obtain ⟨cs, hcs, hplain⟩ := hcolumn
  obtain ⟨ss, hss, hne, hsymbol⟩ := tokens?_symbol quotes op
  obtain ⟨us, hus, hunjoined⟩ := unjoined_spelledOperand hwrite op value
  have hhead : ∀ t ∈ cs ++ ss, t.isPlain := List.forall_mem_append.mpr ⟨hplain, hsymbol⟩
  have hwhole : Clause.Unjoined (cs ++ ss ++ us) := (Clause.unjoined_plain hhead).append hunjoined
  refine ⟨cs ++ ss ++ us, Clause.tokens?_spaced (Clause.tokens?_spaced hcs hss) hus, ?_⟩
  -- a symbol is not empty, so the comparison does not begin with a parenthesis
  cases hbegin : cs ++ ss with
  | nil => exact absurd (List.append_eq_nil_iff.mp hbegin).2 hne
  | cons t ts =>
    rw [hbegin] at hwhole hhead
    exact hwhole.conjoins (hhead t List.mem_cons_self)

variable {p : Predicate} {g : Fragment}

/-- The text of a readable predicate says what the predicate says. -/
theorem means_spelled (hwrite : ∀ v, Plain quotes (write v)) (hp : p.Readable quotes)
    (h : p.render = .ok g) :
    Means quotes (p.spelled write) (p.holds quotes write) := by
  cases p with
  | raw sql =>
    obtain ⟨c, hc⟩ := Option.isSome_iff_exists.mp hp
    refine ⟨c, hc, fun truth => ?_⟩
    simp only [holds, hc, Option.any_some]
  | compare column operator value =>
    rw [render] at h
    cases hop : Operator.ofText? operator with
    | none =>
      rw [hop] at h
      cases h
    | some op =>
      obtain ⟨ts, hts, hconjoins⟩ := conjoins_comparison hwrite hp op value
      rw [← hop] at hts
      refine (Clause.means_atom hts hconjoins).congr fun truth => ?_
      simp only [holds, spelled, hts, Option.any_some]

/-- No comparison has an `OR` at its top level. -/
theorem undivided_spelled (hwrite : ∀ v, Plain quotes (write v)) (hp : p.Readable quotes)
    (h : p.render = .ok g) (hraw : ∀ sql, p = .raw sql → Undivided quotes sql) :
    Undivided quotes (p.spelled write) := by
  cases p with
  | raw sql => exact hraw sql rfl
  | compare column operator value =>
    rw [render] at h
    cases hop : Operator.ofText? operator with
    | none =>
      rw [hop] at h
      cases h
    | some op =>
      obtain ⟨ts, hts, hconjoins⟩ := conjoins_comparison hwrite hp op value
      rw [← hop] at hts
      intro us hus
      cases hts.symm.trans hus
      exact hconjoins.whole

end Predicate

/-! ## Filters -/

namespace Filter

/-- The truth of a filter.  A group without predicates is left out. -/
def holds (quotes : Bool) (write : Value → String) (f : Filter) (truth : List Token → Bool) :
    Bool :=
  (!f.conjuncts.isEmpty && f.conjuncts.all fun p => p.holds quotes write truth)
    || f.alternatives.any fun p => p.holds quotes write truth

/-- What is asked of a filter for its text to be readable. -/
structure Readable (quotes : Bool) (f : Filter) : Prop where
  predicates : ∀ p ∈ f.conjuncts ++ f.alternatives, p.Readable quotes
  conjuncts : ∀ sql, .raw sql ∈ f.conjuncts → Undivided quotes sql

theorem any_groups (f : Filter) (truth : List Token → Bool) :
    (f.groups.any fun ps => ps.all fun p => p.holds quotes write truth)
      = f.holds quotes write truth := by
  rw [groups, holds, List.any_append, List.any_map]
  cases f.conjuncts with
  | nil => simp [Function.comp_def]
  | cons p ps => simp [Function.comp_def]

theorem rendered_of_compile {f : Filter} {condition : Option Fragment}
    (h : f.compile = .ok condition) {p : Predicate} (hp : p ∈ f.conjuncts ++ f.alternatives) :
    ∃ g, p.render = .ok g := by
  rw [compile] at h
  obtain ⟨_, _, h⟩ := bind_eq_ok.mp h
  obtain ⟨_, hconjuncts, h⟩ := bind_eq_ok.mp h
  obtain ⟨_, halternatives, _⟩ := bind_eq_ok.mp h
  cases List.mem_append.mp hp with
  | inl hp => exact exists_ok_of_mem hconjuncts hp
  | inr hp => exact exists_ok_of_mem halternatives hp

/-- Every group of a readable filter says that its predicates hold together. -/
theorem means_group {f : Filter} {condition : Option Fragment} (h : f.compile = .ok condition)
    (hf : f.Readable quotes) (hwrite : ∀ v, Plain quotes (write v)) {ps : List Predicate}
    (hps : ps ∈ f.groups) :
    Means quotes (spelledGroup write ps) fun truth =>
      ps.all fun p => p.holds quotes write truth := by
  have hmeans : ∀ p ∈ f.conjuncts ++ f.alternatives,
      Means quotes (p.spelled write) (p.holds quotes write) := fun p hp =>
    (rendered_of_compile h hp).elim fun _ hg =>
      Predicate.means_spelled hwrite (hf.predicates p hp) hg
  cases List.mem_append.mp hps with
  -- the conjuncts stand side by side without parentheses
  | inl hps =>
    cases hconjuncts : f.conjuncts with
    | nil => simp [hconjuncts] at hps
    | cons p qs =>
      have heq : ps = f.conjuncts := by simpa [hconjuncts] using hps
      rw [heq]
      refine Clause.means_conjunction (by simp [hconjuncts])
        (fun q hq => hmeans q (List.mem_append_left _ hq)) fun q hq => ?_
      obtain ⟨g, hg⟩ := rendered_of_compile h (List.mem_append_left _ hq)
      refine Predicate.undivided_spelled hwrite (hf.predicates q (List.mem_append_left _ hq)) hg ?_
      rintro sql rfl
      exact hf.conjuncts sql hq
  | inr hps =>
    obtain ⟨p, hp, rfl⟩ := List.mem_map.mp hps
    simpa [spelledGroup] using hmeans p (List.mem_append_right _ hp)

/-- A readable filter that is compiled is read as what it says, with a plain text in the place
of each value. -/
theorem means_written {f : Filter} {fragment : Fragment} (h : f.compile = .ok (some fragment))
    (hf : f.Readable quotes) (hwrite : ∀ v, Plain quotes (write v)) :
    Means quotes (fragment.written write) (f.holds quotes write) := by
  have hgroups : ∀ ps ∈ f.groups, _ := fun ps hps => means_group h hf hwrite hps
  have hcondition := compile_eq_ok h
  by_cases hempty : f.isEmpty
  · rw [if_pos hempty] at hcondition
    cases hcondition
  · rw [if_neg hempty] at hcondition
    by_cases hno : f.alternatives.isEmpty
    · rw [if_pos hno] at hcondition
      cases hcondition
      have hcons : ¬ f.conjuncts.isEmpty := fun hc => hempty (Bool.and_eq_true_iff.mpr ⟨hc, hno⟩)
      have hsingle : f.groups = [f.conjuncts] := by
        rw [groups, if_neg hcons, List.isEmpty_iff.mp hno]
        rfl
      rw [(spells_fragmentGroup f.conjuncts).written_eq]
      refine (hgroups f.conjuncts (hsingle ▸ List.mem_cons_self)).congr fun truth => ?_
      rw [← any_groups, hsingle]
      simp
    · rw [if_neg hno] at hcondition
      cases hcondition
      have hne : f.groups ≠ [] := by
        rw [groups]
        exact List.append_ne_nil_of_right_ne_nil _ (by simpa using hno)
      have hspelled := (Fragment.spells_joined (show Text.Unmarked " OR " by decide) f.groups
        fun ps _ => (spells_fragmentGroup ps).parenthesized).written_eq write
      rw [hspelled]
      exact (Clause.means_disjunction hne hgroups).congr (any_groups f)

/-- A filter is compiled to text that says what the filter says, whatever stands in it for
the values.  There is no text if and only if there are no predicates. -/
theorem compile_means {f : Filter} {condition : Option Fragment} (h : f.compile = .ok condition)
    (hf : f.Readable quotes) :
    (condition = none ↔ f.conjuncts = [] ∧ f.alternatives = [])
      ∧ ∀ fragment, condition = some fragment →
          Means quotes fragment.sql (f.holds quotes fun _ => Value.placeholder)
          ∧ ∀ write, (∀ v, Plain quotes (write v)) →
              Means quotes (fragment.written write) (f.holds quotes write) := by
  constructor
  · rw [compile_eq_ok h, ← List.isEmpty_iff, ← List.isEmpty_iff, ← Bool.and_eq_true, ← isEmpty]
    by_cases hempty : f.isEmpty
    · simp [hempty]
    · rw [if_neg hempty]
      by_cases hno : f.alternatives.isEmpty <;> simp [hempty, hno]
  · rintro fragment rfl
    have hplaceholder : Plain quotes Value.placeholder :=
      ⟨[.mark '?'], by cases quotes <;> rfl, by decide +kernel⟩
    refine ⟨?_, fun write hwrite => means_written h hf hwrite⟩
    rw [Fragment.sql_eq_written]
    exact means_written h hf fun _ => hplaceholder

/-- A conjunct with a connective in a quoted text and one in parentheses, and an alternative
with a connective at the top level. -/
def mixed : Filter where
  conjuncts := [.compare "n" "in" (.list [.int 1, .text "b"]),
    .raw "s = ') OR (' AND (n = 2 OR n = 3)"]
  alternatives := [.compare "n" "is" .null, .raw "s = n OR n = 4 and s = t"]

theorem readable_mixed : mixed.Readable true where
  predicates := by
    have hcolumn : Plain true "n" := ⟨[.word "n"], rfl, by decide +kernel⟩
    intro p hp
    simp only [mixed, List.cons_append, List.nil_append, List.mem_cons, List.not_mem_nil,
      or_false] at hp
    rcases hp with rfl | rfl | rfl | rfl
    · exact hcolumn
    · show Option.isSome _
      decide +kernel
    · exact hcolumn
    · show Option.isSome _
      decide +kernel
  conjuncts := by
    intro sql hsql
    simp only [mixed, List.mem_cons, reduceCtorEq, Predicate.raw.injEq, List.not_mem_nil, or_false,
      false_or] at hsql
    rw [hsql]
    decide +kernel

/-- Numbers are all written alike, and so are all other values. -/
def sorted : Value → String
  | .int _ => "1"
  | _ => "'OR ('"

theorem plain_sorted (v : Value) : Plain true (sorted v) := by
  have hnumber : Plain true "1" := ⟨[.word "1"], by decide +kernel, by decide +kernel⟩
  have hother : Plain true "'OR ('" :=
    ⟨[.quoted '\'' "OR ("], by decide +kernel, by decide +kernel⟩
  cases v with
  | int n => exact hnumber
  | null | bool | float | text | blob | list => exact hother

theorem mixed_means : ∃ fragment,
    mixed.compile = .ok (some fragment)
    ∧ fragment.sql = "(n IN (?, ?) AND s = ') OR (' AND (n = 2 OR n = 3)) OR (n IS NULL)"
        ++ " OR (s = n OR n = 4 and s = t)"
    ∧ Means true fragment.sql (mixed.holds true fun _ => "?")
    ∧ Means true (fragment.written sorted) (mixed.holds true sorted) := by
  obtain ⟨fragment, hfragment⟩ : ∃ fragment, mixed.compile = .ok (some fragment) := ⟨_, rfl⟩
  have hmeans := (compile_means hfragment readable_mixed).2 fragment rfl
  refine ⟨fragment, hfragment, ?_, hmeans.1, hmeans.2 sorted plain_sorted⟩
  cases hfragment
  decide +kernel

end Filter

end BoundSql
