import BoundSql.Embedded.Command
import BoundSql.Embedded.Fault

/-!
# Terms

A *term* is an expression in which every name has been looked up.  Columns are
places in a row, and placeholders have become the cells that are bound to them.
Whatever can be wrong with an expression is found while it is looked up, so the
evaluation of a term always ends in a cell.

Truth has three values.  A comparison with nothing is neither true nor false, and
a condition holds only if it is true.
-/

namespace BoundSql.Embedded

/-! ## Scopes -/

/-- A column that can be named. -/
structure ScopeColumn where
  tables : List String
  name : String
  /-- The affinity, if the column is one of a table. -/
  affinity : Option Affinity
  /-- The name of the table is needed to name it. -/
  qualifiedOnly : Bool := false
  /-- It is not among all the columns. -/
  hidden : Bool := false
deriving Repr

/-- The columns that can be named, in the order of the cells of a row. -/
abbrev Scope := List ScopeColumn

namespace Scope

/-- The place of the first column that is meant by a name. -/
def find? (scope : Scope) (table : Option String) (name : String) : Option Nat :=
  scope.findIdx? fun c =>
    Text.sameLetters c.name name && match table with
      | none => !c.qualifiedOnly
      | some t => c.tables.any (Text.sameLetters t)

end Scope

/-! ## Terms -/

/-- A function of several rows. -/
inductive Aggregate where
  /-- The number of the cells that are there. -/
  | count
  /-- The largest cell. -/
  | max
  /-- The smallest cell. -/
  | min
  | sum
deriving DecidableEq, Repr

namespace Aggregate

/-- The function of a name. -/
def ofName? (name : String) : Option Aggregate :=
  ([("count", count), ("max", max), ("min", min), ("sum", sum)].find? fun e =>
    Text.sameLetters e.1 name).map (·.2)

/-- The better of two cells, where nothing is worse than anything. -/
def pick (better : Ordering) (a b : Cell) : Cell :=
  if a = .null then b
  else if b = .null then a
  else if Cell.order b a = better then b
  else a

/-- The value for some cells. -/
def apply (f : Aggregate) (cells : List Cell) : Cell :=
  match f with
  | count => .int (Int64.ofNat (cells.filter (· != .null)).length)
  | max => cells.foldl (pick .gt) .null
  | min => cells.foldl (pick .lt) .null
  | sum =>
      match cells.filter (· != .null) with
      | [] => .null
      | first :: rest => rest.foldl Cell.add (Cell.add (.int 0) first)

end Aggregate

/-- An expression in which every name has been looked up. -/
inductive Term where
  | cell (c : Cell)
  /-- The cell at a place of the row. -/
  | column (place : Nat) (affinity : Option Affinity)
  | negate (t : Term)
  /-- It does not hold. -/
  | not (t : Term)
  /-- Two terms with an operator between them. -/
  | binary (op : BinaryOp) (a b : Term)
  /-- It is one of some others. -/
  | isIn (t : Term) (items : List Term)
  /-- A function of several rows, for the cells of a term or for the rows themselves. -/
  | aggregate (f : Aggregate) (argument : Option Term)
deriving Repr, Inhabited

namespace Term

/-! ## Looking names up -/

/-- Where an expression stands. -/
structure Place where
  /-- The columns that can be named. -/
  scope : Scope
  /-- What is bound to the placeholders. -/
  params : List Cell
  ofSeveralRows : Bool := false

/-- The column of a name. -/
def columnOf (place : Place) (table : Option String) (name : String) : Except SqlFault Term :=
  match place.scope.find? table name with
  | some i => .ok (.column i ((place.scope[i]?).bind (·.affinity)))
  | none => .error (.noSuchColumn (match table with
      | some t => t ++ "." ++ name
      | none => name))

mutual

/-- Looks the names of an expression up. -/
def ofExpr (place : Place) : Expr → Except SqlFault Term
  | .literal c => .ok (.cell c)
  | .param i => .ok (.cell ((place.params[i]?).getD .null))
  | .column table name => columnOf place table name
  | .quoted name => .ok (((columnOf place none name).toOption).getD (.cell (.text name)))
  | .negate e => (ofExpr place e).map .negate
  | .not e => (ofExpr place e).map .not
  | .binary op a b => do
      let s ← ofExpr place a
      let t ← ofExpr place b
      .ok (.binary op s t)
  | .isIn e items => do
      let t ← ofExpr place e
      let ts ← ofExprs place items
      .ok (.isIn t ts)
  | .call name arguments =>
      match Aggregate.ofName? name with
      | none => .error (.noSuchFunction name)
      | some f =>
          if !place.ofSeveralRows then .error (.misusedFunction name)
          else
            match arguments with
            | [] => if f = .count then .ok (.aggregate f none) else .error (.argumentCount name)
            | [e] => (ofExpr { place with ofSeveralRows := false } e).map fun t =>
                .aggregate f (some t)
            | _ => .error (.argumentCount name)

/-- Looks the names of some expressions up. -/
def ofExprs (place : Place) : List Expr → Except SqlFault (List Term)
  | [] => .ok []
  | e :: es => do
      let t ← ofExpr place e
      let ts ← ofExprs place es
      .ok (t :: ts)

end

/-! ## Evaluation -/

/-- The affinity of a term. -/
def affinity? : Term → Option Affinity
  | column _ a => a
  | _ => none

/-- A truth value as a cell. -/
def truth (b : Bool) : Cell := .int (if b then 1 else 0)

/-- A comparison as a cell, nothing if there is none. -/
def compared (test : Ordering → Bool) : Option Ordering → Cell
  | none => .null
  | some o => truth (test o)

/-- At least one of two conditions holds. -/
def either (a b : Cell) : Cell :=
  if a.holds || b.holds then truth true
  else if a = .null || b = .null then .null
  else truth false

/-- A condition does not hold. -/
def negation (a : Cell) : Cell := if a = .null then .null else truth !a.holds

/-- Both conditions hold. -/
def both (a b : Cell) : Cell := negation (either (negation a) (negation b))

/-- The cell of an operator between two cells with affinities. -/
def operate (op : BinaryOp) (aff : Option Affinity) (a : Cell) (bff : Option Affinity) (b : Cell) :
    Cell :=
  let order := Cell.compareWith aff a bff b
  match op with
  | .or => either a b
  | .and => both a b
  | .eq => compared (·.isEq) order
  | .ne => compared (!·.isEq) order
  | .is => truth (if a = .null || b = .null then a == b else order.any (·.isEq))
  | .isNot => truth (if a = .null || b = .null then a != b else order.any (!·.isEq))
  | .lt => compared (·.isLT) order
  | .le => compared (·.isLE) order
  | .gt => compared (·.isGT) order
  | .ge => compared (·.isGE) order
  | .add => a.add b
  | .sub => a.add b.negate

mutual

/-- The cell of a term for a row, which stands for the rows of a group. -/
def eval (group : List (List Cell)) (row : List Cell) : Term → Cell
  | cell c => c
  | column i _ => (row[i]?).getD .null
  | negate t => (eval group row t).negate
  | not t => negation (eval group row t)
  | binary op a b => operate op a.affinity? (eval group row a) b.affinity? (eval group row b)
  | isIn t items => evalIn group row t.affinity? (eval group row t) items
  | aggregate f none => f.apply (group.map fun _ => truth true)
  | aggregate f (some t) => f.apply (group.map fun other => eval [] other t)

/-- A cell is equal to one of some terms. -/
def evalIn (group : List (List Cell)) (row : List Cell) (aff : Option Affinity) (c : Cell) :
    List Term → Cell
  | [] => truth false
  | t :: ts => either (operate .eq aff c none (eval group row t)) (evalIn group row aff c ts)

end

/-- The term is one for several rows. -/
def isOfSeveralRows : Term → Bool
  | aggregate .. => true
  | negate t | not t => t.isOfSeveralRows
  | binary _ a b => a.isOfSeveralRows || b.isOfSeveralRows
  | isIn t _ => t.isOfSeveralRows
  | _ => false

/-! ## Tests -/

/-- A row with a number and a text. -/
def sampleScope : Scope := [⟨["t"], "n", some .integer, false, false⟩, ⟨["t"], "s", some .text, false, false⟩]

/-- The cell of an expression for a sample row. -/
def sampleEval? (e : Expr) : Option Cell :=
  ((ofExpr { scope := sampleScope, params := [.text "5"] } e).map
    (eval [] [.int 5, .text "x"])).toOption

example : sampleEval? (.binary .eq (.column none "N") (.param 0)) = some (.int 1)
    ∧ sampleEval? (.binary .eq (.literal (.int 5)) (.param 0)) = some (.int 0)
    ∧ sampleEval? (.binary .eq (.column (some "t") "n") (.literal .null)) = some .null
    ∧ sampleEval? (.column none "m") = none
    ∧ sampleEval? (.quoted "m") = some (.text "m") := by decide +kernel

end Term

end BoundSql.Embedded
