import BoundSql.Proofs.Filter.WellFormed
import BoundSql.Proofs.Session
import BoundSql.Proofs.Statement

/-!
# Statements without lists

A list can be the operand of `IN`, and then its items are bound and not the list itself.
Every other list in a filter is refused when the filter is compiled, and so a filter that
compiles binds nothing but scalars (`Filter.scalar_values`).  A row is not looked at in this
way.  The lists in it are bound like other values, and the statement is refused later, when it
is sent (`Builder.scalar_iff`).
-/

namespace BoundSql

/-! ## Filters -/

namespace Filter

/-- The clause of a filter that compiles is its condition. -/
theorem exists_compile_of_clause {f : Filter} {g : Fragment} (h : f.clause = .ok g) :
    ∃ condition, f.compile = .ok condition := by
  obtain ⟨condition, hcondition, _⟩ := bind_eq_ok.mp h
  exact ⟨condition, hcondition⟩

end Filter

/-! ## Statements -/

namespace Builder

/-- The filter of a statement.  An insert has none. -/
def filter : Builder → Filter
  | select s => s.filter
  | insert _ => .empty
  | update u => u.filter
  | delete x => x.filter

/-- The values that a statement writes. -/
def written : Builder → List Value
  | insert i => i.values
  | update u => u.assignments.map Assignment.value
  | select _ | delete _ => []

theorem values_eq (b : Builder) : b.values = b.written ++ b.filter.values := by
  cases b with
  | select s => rfl
  | insert i => exact (List.append_nil i.values).symm
  | update u => rfl
  | delete x => rfl

/-- The filter of a statement that compiles does. -/
theorem exists_compile {b : Builder} {d : Dialect} {statement : Statement}
    (h : b.build d = .ok statement) : ∃ condition, b.filter.compile = .ok condition := by
  cases b with
  | select s =>
      obtain ⟨f, hf, _⟩ := map_eq_ok.mp h
      rw [Select.fragment_eq, ite_error_eq_ok] at hf
      obtain ⟨g, hg, _⟩ := bind_eq_ok.mp hf.2
      exact Filter.exists_compile_of_clause hg
  | insert i => exact ⟨none, rfl⟩
  | update u =>
      obtain ⟨f, hf, _⟩ := map_eq_ok.mp h
      rw [Update.fragment_eq, ite_error_eq_ok, ite_error_eq_ok] at hf
      obtain ⟨g, hg, _⟩ := bind_eq_ok.mp hf.2.2
      exact Filter.exists_compile_of_clause hg
  | delete x =>
      obtain ⟨f, hf, _⟩ := map_eq_ok.mp h
      rw [Delete.fragment_eq, ite_error_eq_ok] at hf
      obtain ⟨g, hg, _⟩ := bind_eq_ok.mp hf.2
      exact Filter.exists_compile_of_clause hg

/-- The lists that a statement binds are among the values that it writes. -/
theorem scalar_iff {b : Builder} {d : Dialect} {statement : Statement}
    (h : b.build d = .ok statement) : statement.Scalar ↔ ∀ v ∈ b.written, v.isScalar := by
  obtain ⟨f, rfl, hspells⟩ := spells_build h
  obtain ⟨condition, hcompile⟩ := exists_compile h
  have hparams : f.statement.params = b.written ++ b.filter.values :=
    hspells.params_eq.trans b.values_eq
  rw [Statement.Scalar, hparams, List.forall_mem_append]
  exact ⟨And.left, fun hwritten => ⟨hwritten, Filter.scalar_values hcompile⟩⟩

end Builder

theorem Select.scalar {s : Select} {statement : Statement} (h : s.build = .ok statement) :
    statement.Scalar :=
  (Builder.scalar_iff (b := .select s) (d := .sqlite) h).mpr fun _ hv =>
    absurd hv List.not_mem_nil

end BoundSql
