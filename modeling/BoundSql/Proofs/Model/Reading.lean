import BoundSql.Proofs.Model.Sending
import BoundSql.Proofs.Statement.Scalar

/-!
# Looking a row up

The row with a key is looked up by one query, which is known in advance (`Model.lookup`).
Since a key is no list, the query of a model whose names are not blank is always sent.
-/

namespace BoundSql

namespace Model

variable {σ : Type} {m : Model} {s : Session σ}

/-- The query for the row with a key. -/
def lookup (m : Model) (key : Int64) : Statement :=
  ⟨"SELECT * FROM " ++ m.table ++ " WHERE " ++ m.primaryKey ++ " = ? LIMIT 1", [.int key]⟩

theorem scalar_lookup (m : Model) (key : Int64) : (m.lookup key).Scalar := by
  intro v hv
  cases List.mem_singleton.mp hv
  rfl

theorem isBlankText_table (hcheck : m.check = .ok ()) : Text.isBlankText m.table = false := by
  rw [check, ite_error_eq_ok, Bool.not_eq_true] at hcheck
  exact hcheck.1

/-- A key that may be bound has a condition. -/
theorem compile_keyed (m : Model) {id : Value} (h : id.isScalar) :
    (m.keyed id).compile = .ok (some (.text (m.primaryKey ++ " = ") ++ .bound id)) := by
  have hop : Operator.ofText? "=" = some .eq := by decide +kernel
  have hchecks : [Predicate.compare m.primaryKey "=" id].forM Predicate.check = .ok () := by
    show (Predicate.check _ >>= fun _ => pure ()) = _
    rw [Predicate.check, hop]
    show ((if id.isScalar then Except.ok () else _) >>= fun _ => pure ()) = _
    rw [if_pos h]
    rfl
  have hoperand : Predicate.operand .eq id = .bound id := by
    cases id with
    | list items => cases h
    | null | bool | int | float | text | blob => rfl
  have hequals : " " ++ (Operator.eq.symbol ++ " ") = " = " := by decide
  have hrender : (Predicate.compare m.primaryKey "=" id).render
      = .ok (.text (m.primaryKey ++ " = ") ++ .bound id) := by
    rw [Predicate.render, hop]
    show Except.ok (.text (m.primaryKey ++ " " ++ _ ++ " ") ++ Predicate.operand _ _) = _
    rw [hoperand, String.append_assoc, String.append_assoc, hequals]
  simp only [Filter.compile, keyed, Filter.whereEq, Filter.andWhere, Filter.and, Filter.empty,
    List.nil_append, List.append_nil, List.mapM_cons, List.mapM_nil, hchecks, hrender]
  exact congrArg (fun f => Except.ok (some f)) (Fragment.joined_singleton _ _)

/-- The key is bound in the query. -/
theorem build_lookup (hcheck : m.check = .ok ()) (key : Int64) :
    (m.searchFor (.int key)).build = .ok (m.lookup key) := by
  have hclause : (m.keyed (.int key)).clause
      = .ok (.text " WHERE " ++ (.text (m.primaryKey ++ " = ") ++ .bound (.int key))) := by
    rw [Filter.clause, compile_keyed m rfl]
    rfl
  have hfragment : (m.searchFor (.int key)).fragment = .ok
      (.text ("SELECT * FROM " ++ m.table)
        ++ (.text " WHERE " ++ (.text (m.primaryKey ++ " = ") ++ .bound (.int key)))
        ++ .text " LIMIT 1") := by
    rw [Select.fragment_eq]
    show (if Text.isBlankText m.table then _ else (m.keyed _).clause >>= _) = _
    rw [isBlankText_table hcheck, if_neg Bool.false_ne_true, hclause]
    rfl
  have hplaceholder : " = ? LIMIT 1" = " = " ++ (Value.placeholder ++ " LIMIT 1") := by decide
  rw [Select.build, hfragment]
  refine congrArg Except.ok (congr (congrArg Statement.mk ?_) rfl)
  rw [hplaceholder]
  simp only [Fragment.sql_eq_written, Fragment.written_append, Fragment.written_text,
    Fragment.written_bound, String.append_assoc]

/-- Looking a row up ends as its query does. -/
theorem run_find (hcheck : m.check = .ok ()) (key : Int64) (db : σ) :
    (m.find s (.int key)).run db = ((s.fetchAll (m.lookup key)).run db).map List.head? := by
  have hbuild := build_lookup hcheck key
  rw [searchFor] at hbuild
  rw [find, hcheck, Action.run_ofCompiled_ok_bind, Session.query, hbuild]
  show ((s.fetchAll (m.lookup key) >>= fun rows => pure (ResultSet.mk rows)) >>= fun found =>
    pure found.firstRow?).run db = _
  rw [Action.run_bind_pure, Action.run_bind_pure, Ending.map_map]
  rfl

end Model

end BoundSql
