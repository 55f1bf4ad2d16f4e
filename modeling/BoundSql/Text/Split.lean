/-!
# Splitting a text

A list of characters is split at those that satisfy a condition.  The pieces are
what stands in front of the first, between any two neighbours, and behind the
last of them, so there is one more piece than there are separators, and pieces
may be empty.
-/

namespace BoundSql.Text

/-- One more character in front of a text that is already split: a separator
opens an empty piece, any other character extends the first piece. -/
def splitStep (separates : Char → Bool) (c : Char) (pieces : List (List Char)) :
    List (List Char) :=
  if separates c then [] :: pieces
  else match pieces with
    | [] => [[c]]
    | piece :: rest => (c :: piece) :: rest

/-- The pieces of a text between separators. -/
def splitWhere (separates : Char → Bool) (cs : List Char) : List (List Char) :=
  cs.foldr (splitStep separates) [[]]

/-- What stands in front of the first separator, and what stands behind it if
there is one. -/
def cutAt (separator : Char) (cs : List Char) : List Char × Option (List Char) :=
  match cs.span (· != separator) with
  | (front, []) => (front, none)
  | (front, _ :: back) => (front, some back)

/-- What stands in front of the last separator if there is one, and what stands
behind it. -/
def cutAtLast (separator : Char) (cs : List Char) : Option (List Char) × List Char :=
  match cs.reverse.span (· != separator) with
  | (back, []) => (none, back.reverse)
  | (back, _ :: front) => (some front.reverse, back.reverse)

/-! ## Tests -/

example : splitWhere (· == '/') "a//b/".toList = [['a'], [], ['b'], []] := by decide
example : cutAt '=' "a=b=c".toList = (['a'], some ['b', '=', 'c']) := by decide
example : cutAtLast '@' "a@b@c".toList = (some ['a', '@', 'b'], ['c']) := by decide

end BoundSql.Text
