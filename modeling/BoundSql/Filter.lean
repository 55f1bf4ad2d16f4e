import BoundSql.Fragment
import BoundSql.Refusal

/-!
# Filters

A `Filter` is a group of predicates that all hold, or any of a second group.  It
is compiled in two steps.  First every predicate is checked, those of the first
group before those of the second, and the first ill-formed one refuses the whole
filter.  Then the text is put together: predicates joined by `AND`, and with a
second group one parenthesised alternative per predicate, joined by `OR`.

Columns and raw fragments are trusted text.  Values are bound, and the text of
an operator is replaced by the symbol of the operator it names.
-/

namespace BoundSql

/-! ## Predicates -/

/-- A condition on one row. -/
inductive Predicate where
  /-- A column compared with a value, by the operator that a text names. -/
  | compare (column operator : String) (value : Value)
  /-- Trusted text. -/
  | raw (sql : String)
deriving Repr, Inhabited

namespace Predicate

/-- Refuses an operand that its operator does not take. -/
def checkOperand (column : String) (op : Operator) (value : Value) : Except Refusal Unit :=
  if op.isNullCheck then .ok ()
  else if op.takesList then
    match value with
    | .list [] => .error (.emptyList column op)
    | .list items =>
        match Value.firstNonScalar? items with
        | some (index, item) => .error (.nonScalarParameter index item)
        | none => .ok ()
    | _ => .error (.listRequired column op)
  else if value.isScalar then .ok ()
  else .error (.scalarRequired column op)

/-- Refuses an unknown operator, or an operand that it does not take. -/
def check : Predicate → Except Refusal Unit
  | .raw _ => .ok ()
  | .compare column operator value =>
      match Operator.ofText? operator with
      | none => .error (.unsupportedOperator operator)
      | some op => checkOperand column op value

/-- The operand as it stands in the statement: `NULL` for a null check, a tuple
for a list, one placeholder for anything else. -/
def operand (op : Operator) (value : Value) : Fragment :=
  if op.isNullCheck then .text "NULL"
  else match value with
    | .list items => .tuple items
    | v => .bound v

/-- The condition as it stands in the statement. -/
def render : Predicate → Except Refusal Fragment
  | .raw sql => .ok (.text sql)
  | .compare column operator value =>
      match Operator.ofText? operator with
      | none => .error (.unsupportedOperator operator)
      | some op => .ok (.text (column ++ " " ++ op.symbol ++ " ") ++ operand op value)

end Predicate

/-! ## Filters -/

/-- Predicates that all hold, or any of some others. -/
structure Filter where
  /-- The predicates that hold together. -/
  conjuncts : List Predicate := []
  alternatives : List Predicate := []
deriving Repr, Inhabited

namespace Filter

/-- The filter without predicates. -/
def empty : Filter := {}

/-- There are no predicates. -/
def isEmpty (f : Filter) : Bool := f.conjuncts.isEmpty && f.alternatives.isEmpty

/-- One more predicate that holds together with the others. -/
def and (f : Filter) (p : Predicate) : Filter := { f with conjuncts := f.conjuncts ++ [p] }

/-- One more alternative. -/
def or (f : Filter) (p : Predicate) : Filter := { f with alternatives := f.alternatives ++ [p] }

/-- One more comparison that holds together with the others. -/
def andWhere (f : Filter) (column operator : String) (value : Value) : Filter :=
  f.and (.compare column operator value)

/-- One more comparison as an alternative. -/
def orWhere (f : Filter) (column operator : String) (value : Value) : Filter :=
  f.or (.compare column operator value)

/-- One more trusted text that holds together with the others. -/
def whereRaw (f : Filter) (sql : String) : Filter := f.and (.raw sql)

/-- One more trusted text as an alternative. -/
def orWhereRaw (f : Filter) (sql : String) : Filter := f.or (.raw sql)

/-- The column has the value. -/
def whereEq (f : Filter) (column : String) (value : Value) : Filter := f.andWhere column "=" value

/-- The column has one of the values. -/
def whereIn (f : Filter) (column : String) (values : List Value) : Filter :=
  f.andWhere column "IN" (.list values)

/-- The column has none of the values. -/
def whereNotIn (f : Filter) (column : String) (values : List Value) : Filter :=
  f.andWhere column "NOT IN" (.list values)

/-- The column has no value. -/
def whereNull (f : Filter) (column : String) : Filter := f.andWhere column "IS" .null

/-- The column has a value. -/
def whereNotNull (f : Filter) (column : String) : Filter := f.andWhere column "IS NOT" .null

/-- The condition as it stands in a statement, if there are predicates at all. -/
def compile (f : Filter) : Except Refusal (Option Fragment) := do
  (f.conjuncts ++ f.alternatives).forM Predicate.check
  let conjuncts ← f.conjuncts.mapM Predicate.render
  let alternatives ← f.alternatives.mapM Predicate.render
  let conjunction := Fragment.joined " AND " conjuncts
  match conjuncts, alternatives with
  | [], [] => pure none
  | _, [] => pure (some conjunction)
  | [], _ => pure (some (.joined " OR " (alternatives.map Fragment.parenthesized)))
  | _, _ => pure (some (.joined " OR " ((conjunction :: alternatives).map Fragment.parenthesized)))

/-- The `WHERE` clause with the space in front of it, or nothing. -/
def clause (f : Filter) : Except Refusal Fragment := do
  match ← f.compile with
  | none => pure []
  | some condition => pure (.text " WHERE " ++ condition)

/-! ## Tests -/

/-- The SQL of a filter that compiles, or the message of its refusal. -/
def outcome (f : Filter) : String :=
  match f.compile with
  | .ok none => ""
  | .ok (some condition) => condition.sql
  | .error refusal => refusal.message

example : (empty.whereEq "foo" (.int 1) |>.whereNull "bar" |>.orWhere "id" "<" (.int 5)).outcome
    = "(foo = ? AND bar IS NULL) OR (id < ?)" := by decide +kernel
example : (empty.whereIn "id" [.int 1, .int 2] |>.whereRaw "x").outcome = "id IN (?, ?) AND x" := by
  decide +kernel
example : (empty.whereIn "id" [] |>.andWhere "x" "<>" .null).outcome
    = "empty value list for IN operator on column 'id'" := by decide +kernel

end Filter

end BoundSql
