import BoundSql.Embedded.Term

/-!
# Relations

A *relation* is a list of rows with the columns that can be named in them.  It is
what a query takes its rows from.  The query keeps the rows for which its
condition holds, puts them in order, passes over some of them, and returns the
cells of its terms for the rest.  If a term is for several rows, the query
returns one row for all that were kept.

Whatever is wrong with a query is found before any row is looked at.
-/

namespace BoundSql.Embedded

/-- Rows with the columns that can be named in them. -/
structure Relation where
  /-- The columns. -/
  scope : Scope
  rows : List (List Cell)
deriving Repr

/-- A named cell for each column that is returned. -/
abbrev NamedRow := List (String × Cell)

/-- A column that a query returns. -/
structure Output where
  name : String
  term : Term
  /-- The other name that the query gives it. -/
  label : Option String := none
deriving Repr, Inhabited

/-! ## Outputs -/

/-- The name of an output without a label. -/
def outputName (scope : Scope) (spelling : String) : Term → String
  | .column i _ => ((scope[i]?).map (·.name)).getD spelling
  | _ => spelling

/-- Every column that is not hidden. -/
def allOutputs (scope : Scope) : List Output :=
  (scope.zipIdx.filter fun (c, _) => !c.hidden).map fun (c, i) => ⟨c.name, .column i c.affinity, none⟩

/-- The outputs of an item. -/
def outputsOf (place : Term.Place) : Item → Except SqlFault (List Output)
  | .all => if place.scope.isEmpty then .error .nothingToReturn else .ok (allOutputs place.scope)
  | .expr e label spelling => (Term.ofExpr { place with ofSeveralRows := true } e).map fun t =>
      [⟨label.getD (outputName place.scope spelling t), t, label⟩]

/-- The cells of some outputs under their names. -/
def namedCells (outputs : List Output) (group : List (List Cell)) (row : List Cell) : NamedRow :=
  outputs.map fun o => (o.name, o.term.eval group row)

/-! ## Order -/

/-- The output with a label, or else what the expression means in the scope. -/
def byLabel (outputs : List Output) (name : String) (looked : Except SqlFault Term) :
    Except SqlFault Term :=
  match outputs.find? fun o => o.label.any (Text.sameLetters name) with
  | some o => .ok o.term
  | none => looked

/-- A term of an order, with its index: the number of an output, the label of one,
or an expression. -/
def orderTerm (place : Term.Place) (outputs : List Output) (e : Expr) (index : Nat) :
    Except SqlFault Term :=
  let looked := Term.ofExpr { place with ofSeveralRows := true } e
  match e with
  | .literal (.int n) =>
      match if 1 ≤ n then outputs[n.toInt.toNat - 1]? else none with
      | some o => .ok o.term
      | none => .error (.orderOutOfRange (index + 1) outputs.length)
  | .column none name => byLabel outputs name looked
  | .quoted name => byLabel outputs name looked
  | _ => looked

/-- The cells by which a row is put in order, with a flag for descending ones. -/
abbrev SortKey := List (Cell × Bool)

/-- A row does not come behind another one. -/
def sortedBefore : SortKey → SortKey → Bool
  | (a, descending) :: as, (b, _) :: bs =>
      match Cell.order a b with
      | .lt => !descending
      | .gt => descending
      | .eq => sortedBefore as bs
  | _, _ => true

/-! ## Limits -/

/-- The integer of an expression without columns. -/
def integerOf (params : List Cell) (e : Expr) : Except SqlFault Int := do
  let t ← Term.ofExpr { scope := [], params } e
  match (t.eval [] []).convert .numeric with
  | .int n => .ok n.toInt
  | _ => .error .mismatch

/-- The rows that a limit lets through.  A negative limit is none. -/
def limited {α : Type} (limit : Option (Int × Int)) (rows : List α) : List α :=
  match limit with
  | none => rows
  | some (offset, count) =>
      let rest := rows.drop offset.toNat
      if count < 0 then rest else rest.take count.toNat

/-! ## Queries -/

namespace Relation

/-- One row without columns. -/
def unit : Relation := ⟨[], [[]]⟩

/-- A name without a number at its end that a colon stands in front of. -/
def nameStem (name : String) : String :=
  match name.toList.reverse.dropWhile isDigit with
  | ':' :: stem => String.ofList stem.reverse
  | _ => name

/-- A name, or the first one with a number behind it that is not taken. -/
def freshName (taken : List String) (name : String) : String :=
  let isTaken (n : String) : Bool := taken.any (Text.sameLetters n)
  let numbered := (List.range (taken.length + 1)).map fun k =>
    nameStem name ++ ":" ++ toString (k + 1)
  if isTaken name then (numbered.find? (!isTaken ·)).getD name else name

/-- Makes names distinct, from left to right.  `taken` holds those in front. -/
def freshNames : List String → List String → List String
  | _, [] => []
  | taken, name :: rest =>
      let fresh := freshName taken name
      fresh :: freshNames (fresh :: taken) rest

/-- One row of named cells, of which none has the name of another one. -/
def ofNamed (label : Option String) (cells : NamedRow) : Relation :=
  let names := freshNames [] (cells.map (·.1))
  ⟨names.map fun n => ⟨label.toList, n, none, false, false⟩, [cells.map (·.2)]⟩

/-- The rows for which a condition holds. -/
def keep (condition : Option Term) (r : Relation) : List (List Cell) :=
  match condition with
  | none => r.rows
  | some t => r.rows.filter fun row => (t.eval [] row).holds

/-- The answer to a query whose source is this relation. -/
def answer (params : List Cell) (q : Query) (r : Relation) : Except SqlFault (List NamedRow) := do
  let place : Term.Place := { scope := r.scope, params }
  let outputs := (← q.items.mapM (outputsOf place)).flatten
  let condition ← q.condition.mapM (Term.ofExpr place)
  let order ← q.order.zipIdx.mapM fun ((e, descending), i) =>
    (orderTerm place outputs e i).map fun t => (t, descending)
  let limit ← q.limit.mapM fun (offset, count) => do
    let n ← integerOf params count
    let m ← integerOf params offset
    .ok (m, n)
  let kept := r.keep condition
  let group := if outputs.any (·.term.isOfSeveralRows) then kept else []
  let rows := if outputs.any (·.term.isOfSeveralRows) then
      [(kept.getLast?).getD (r.scope.map fun _ => Cell.null)]
    else kept
  let keyed : List (SortKey × NamedRow) := rows.map fun row =>
    (order.map fun (t, descending) => (t.eval group row, descending), namedCells outputs group row)
  .ok (limited limit ((keyed.mergeSort fun a b => sortedBefore a.1 b.1).map (·.2)))

/-! ## Tests -/

example : freshNames [] ["a", "b", "A", "a", "c:7", "c:7"] = ["a", "b", "A:1", "a:2", "c:7", "c:1"] := by
  decide +kernel

end Relation

end BoundSql.Embedded
