import BoundSql.Number.Integer
import BoundSql.Number.Layout
import BoundSql.Text.Blank

/-!
# Values

A `Value` is what is bound to a placeholder.  All shapes but one are *scalar*.
The exception is `Value.list`, which carries the operand of `IN` and is never
bound to a single placeholder.

`Value.inline` is the text of a value as an SQL literal.  It is meant for
messages: statements never hold it.  In it an apostrophe inside a text is
doubled, the items of a list stand in parentheses, and a blob is its bytes in
upper case hexadecimal.
-/

namespace BoundSql

/-- A value of a column or a parameter. -/
inductive Value where
  /-- No value. -/
  | null
  /-- A truth value. -/
  | bool (b : Bool)
  /-- A signed 64-bit integer. -/
  | int (n : Int64)
  /-- A double. -/
  | float (x : Binary64)
  | text (s : String)
  /-- The operand of a list operator. -/
  | list (items : List Value)
  /-- Bytes. -/
  | blob (bytes : List UInt8)
deriving Repr, Inhabited

namespace Value

/-! ## Views -/

/-- The value may be bound to a placeholder. -/
def isScalar : Value → Bool
  | .list _ => false
  | _ => true

/-- The first of some values that is not scalar, with its position. -/
def firstNonScalar? (vs : List Value) : Option (Nat × Value) :=
  (vs.zipIdx.find? fun e => !e.1.isScalar).map fun e => (e.2, e.1)

/-- There is no value. -/
def isNull : Value → Bool
  | .null => true
  | _ => false

/-- The value as an integer: an integer itself, a truth value as zero or one, a
text that spells one between blanks. -/
def asInt? : Value → Option Int64
  | .int n => some n
  | .bool b => some (if b then 1 else 0)
  | .text s => readWord? (Text.trim s)
  | _ => none

/-- The characters of a text. -/
def asText? : Value → Option String
  | .text s => some s
  | _ => none

/-- The placeholder that stands for a value in a statement. -/
def placeholder : String := "?"

/-! ## Literals -/

/-- Literals have no exponent and write integers without a fraction. -/
def literalStyle : FloatStyle := ⟨none, none, false, .up⟩

/-- A double as a literal. -/
def floatLiteral (x : Binary64) : String :=
  if x.isNaN then "NaN"
  else if x.isInfinite then (if x.isNegative then "-inf" else "inf")
  else x.layout literalStyle

/-- An apostrophe twice, any other character once. -/
def doubleQuotes (cs : List Char) : List Char :=
  cs.flatMap fun c => if c = '\'' then ['\'', '\''] else [c]

/-- A text as a literal. -/
def textLiteral (s : String) : String := "'" ++ String.ofList (doubleQuotes s.toList) ++ "'"

/-- A byte as two hexadecimal digits of upper case. -/
def hexByte (b : UInt8) : List Char :=
  [(Nat.digitChar (b.toNat / 16)).toUpper, (Nat.digitChar (b.toNat % 16)).toUpper]

/-- Bytes as a literal. -/
def blobLiteral (bytes : List UInt8) : String :=
  "X'" ++ String.ofList (bytes.flatMap hexByte) ++ "'"

/-- The value as an SQL literal. -/
def inline : Value → String
  | .null => "NULL"
  | .bool b => if b then "TRUE" else "FALSE"
  | .int n => toString n.toInt
  | .float x => floatLiteral x
  | .text s => textLiteral s
  | .list items => "(" ++ String.intercalate ", " (inlines items) ++ ")"
  | .blob bytes => blobLiteral bytes
where
  /-- The literals of the items of a list. -/
  inlines : List Value → List String
    | [] => []
    | v :: vs => v.inline :: inlines vs

theorem inlines_eq_map (vs : List Value) : inline.inlines vs = vs.map inline := by
  induction vs with
  | nil => rfl
  | cons v vs ih => rw [inline.inlines, ih, List.map_cons]

/-! ## Equality -/

/-- Equal in shape and content, where doubles are compared as numbers. -/
def same : Value → Value → Bool
  | .null, .null => true
  | .bool a, .bool b => a == b
  | .int a, .int b => a == b
  | .float a, .float b => a.sameNumber b
  | .text a, .text b => a == b
  | .list as, .list bs => sames as bs
  | .blob a, .blob b => a == b
  | _, _ => false
where
  /-- Equal item by item. -/
  sames : List Value → List Value → Bool
    | [], [] => true
    | a :: as, b :: bs => a.same b && sames as bs
    | _, _ => false

end Value

/-! ## Data that has a value -/

/-- Data that can be bound. -/
class ToValue (α : Type) where
  /-- The value of the data. -/
  toValue : α → Value

export ToValue (toValue)

instance : ToValue Value := ⟨id⟩
instance : ToValue Bool := ⟨.bool⟩
instance : ToValue Int64 := ⟨.int⟩
instance : ToValue Int32 := ⟨fun n => .int n.toInt64⟩
instance : ToValue Int16 := ⟨fun n => .int n.toInt64⟩
instance : ToValue Int8 := ⟨fun n => .int n.toInt64⟩
instance : ToValue UInt32 := ⟨fun n => .int (Int64.ofNat n.toNat)⟩
instance : ToValue UInt16 := ⟨fun n => .int (Int64.ofNat n.toNat)⟩
instance : ToValue UInt8 := ⟨fun n => .int (Int64.ofNat n.toNat)⟩
instance : ToValue Binary64 := ⟨.float⟩
instance : ToValue String := ⟨.text⟩
instance : ToValue (List UInt8) := ⟨.blob⟩

/-- Missing data has no value. -/
instance {α : Type} [ToValue α] : ToValue (Option α) :=
  ⟨fun o => o.elim .null toValue⟩

/-- The list operand of some data. -/
def Value.ofList {α : Type} [ToValue α] (xs : List α) : Value := .list (xs.map toValue)

/-! ## Tests -/

example : (Value.text "O'Brien").inline = "'O''Brien'" := by decide +kernel
example : (Value.ofList [(1 : Int64), 2]).inline = "(1, 2)" := by decide +kernel
example : (Value.blob [0, 255]).inline = "X'00FF'" := by decide +kernel
example : (Value.text " +7\u3000").asInt? = some 7 := by decide +kernel

end BoundSql
