import BoundSql.Text.Blank

/-!
# Operators

The operators that a condition may use are these twelve.  An operator is named
by its words: case and the amount of blank space do not matter, and everything
else does, so `<>` and `NOTIN` name nothing.  What goes into a statement is the
symbol of the operator and never the text that named it.
-/

namespace BoundSql

/-- An operator between a column and its operand. -/
inductive Operator where
  /-- `>` -/
  | gt
  /-- `<` -/
  | lt
  /-- `=` -/
  | eq
  /-- `!=` -/
  | notEq
  /-- `>=` -/
  | gtEq
  /-- `<=` -/
  | ltEq
  /-- `LIKE` -/
  | like
  /-- `NOT LIKE` -/
  | notLike
  /-- `IS`, which compares with `NULL` -/
  | is
  /-- `IS NOT`, which compares with `NULL` -/
  | isNot
  /-- `IN`, which takes a list -/
  | isIn
  /-- `NOT IN`, which takes a list -/
  | notIn
deriving DecidableEq, Repr, Inhabited

namespace Operator

/-- The operators, in the order in which a name is tried on them. -/
def all : List Operator :=
  [gt, lt, eq, notEq, gtEq, ltEq, like, notLike, is, isNot, isIn, notIn]

/-- The spelling of an operator in a statement. -/
def symbol : Operator → String
  | gt => ">"
  | lt => "<"
  | eq => "="
  | notEq => "!="
  | gtEq => ">="
  | ltEq => "<="
  | like => "LIKE"
  | notLike => "NOT LIKE"
  | is => "IS"
  | isNot => "IS NOT"
  | isIn => "IN"
  | notIn => "NOT IN"

/-- The operand is a list. -/
def takesList (op : Operator) : Bool := op == isIn || op == notIn

/-- The operand is `NULL`, whatever value is given. -/
def isNullCheck (op : Operator) : Bool := op == is || op == isNot

/-- The operator that a text names. -/
def ofText? (s : String) : Option Operator :=
  all.find? fun op => Text.sameLetters op.symbol (Text.squeeze s)

/-! ## Tests -/

example : ofText? " is\t not " = some isNot := by decide +kernel
example : ofText? "Not   In" = some notIn := by decide +kernel
example : ofText? "<>" = none ∧ ofText? "notin" = none := by decide +kernel
example : all.all fun op => ofText? op.symbol == some op := by decide +kernel

end Operator

end BoundSql
