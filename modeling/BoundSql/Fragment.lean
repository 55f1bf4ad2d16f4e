import BoundSql.Value

/-!
# Fragments and statements

A `Fragment` is a piece of SQL as it is put together: text, with bound values at
the places where they belong.  Both halves of a `Statement` are read off one
fragment.  Its SQL has a placeholder for each bound value, its parameters are
the bound values from left to right.  Text and values therefore cannot get out
of step, and no value can get into the text.
-/

namespace BoundSql

/-- A part of a fragment. -/
inductive Piece where
  /-- Text that goes into the SQL as it is. -/
  | text (s : String)
  /-- A value that is bound here. -/
  | bound (v : Value)
deriving Repr, Inhabited

namespace Piece

/-- The SQL of a piece. -/
def sql : Piece → String
  | text s => s
  | bound _ => Value.placeholder

/-- The value that a piece binds. -/
def value? : Piece → Option Value
  | text _ => none
  | bound v => some v

end Piece

/-- SQL with bound values in place. -/
abbrev Fragment := List Piece

/-- What is sent to a database: SQL with placeholders and the values for them. -/
structure Statement where
  /-- The text, with one placeholder per parameter. -/
  sql : String
  /-- The values of the placeholders, from left to right. -/
  params : List Value
deriving Repr, Inhabited

/-- The statement without parameters. -/
def Statement.plain (sql : String) : Statement := ⟨sql, []⟩

namespace Fragment

/-- A fragment of text alone. -/
def text (s : String) : Fragment := [.text s]

/-- A single bound value. -/
def bound (v : Value) : Fragment := [.bound v]

/-- The SQL of a fragment. -/
def sql (f : Fragment) : String := String.join (f.map Piece.sql)

/-- The values that a fragment binds, from left to right. -/
def params (f : Fragment) : List Value := f.filterMap Piece.value?

/-- Fragments with a text between them. -/
def joined (separator : String) (fs : List Fragment) : Fragment :=
  (fs.intersperse (text separator)).flatten

/-- A fragment between parentheses. -/
def parenthesized (f : Fragment) : Fragment := text "(" ++ f ++ text ")"

/-- Bound values between parentheses, with commas. -/
def tuple (vs : List Value) : Fragment := parenthesized (joined ", " (vs.map bound))

/-- The statement of a fragment. -/
def statement (f : Fragment) : Statement := ⟨f.sql, f.params⟩

/-! ## Tests -/

example : (tuple [.int 1, .text "?"]).sql = "(?, ?)" := by decide +kernel
example : (tuple []).sql = "()" := by decide +kernel

end Fragment

end BoundSql
