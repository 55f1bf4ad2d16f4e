import BoundSql.Text.Split

/-!
# Blank characters, words and letters

A character is *blank* if it has the Unicode property `White_Space`, which is
true of 25 code points.  Names are trimmed and statements are squeezed with
respect to this class, not the ASCII one.

A *word* of a text is a maximal run of characters that are not blank.  The
squeezed form of a text is its words with one space between them, and so it
depends on the words alone.

Letter case is compared over ASCII only: `É` and `é` differ, `K` and `k` do not.
-/

namespace BoundSql.Text

/-! ## Blank characters -/

/-- The code points with the property `White_Space`, as closed ranges in
ascending order. -/
def blankRanges : List (Nat × Nat) :=
  [(0x09, 0x0D), (0x20, 0x20), (0x85, 0x85), (0xA0, 0xA0), (0x1680, 0x1680), (0x2000, 0x200A),
   (0x2028, 0x2029), (0x202F, 0x202F), (0x205F, 0x205F), (0x3000, 0x3000)]

/-- A number lies in one of the closed ranges. -/
def inRanges (ranges : List (Nat × Nat)) (n : Nat) : Bool :=
  ranges.any fun r => r.1 ≤ n && n ≤ r.2

/-- The character has the property `White_Space`. -/
def isBlank (c : Char) : Bool := inRanges blankRanges c.toNat

/-- Drops the blanks in front. -/
def trimStart (s : String) : String := String.ofList (s.toList.dropWhile isBlank)

/-- Drops the blanks on both sides of a list of characters. -/
def trimChars (cs : List Char) : List Char :=
  (((cs.dropWhile isBlank).reverse).dropWhile isBlank).reverse

/-- Drops the blanks on both sides. -/
def trim (s : String) : String := String.ofList (trimChars s.toList)

/-- Nothing is left after trimming. -/
def isBlankText (s : String) : Bool := s.toList.all isBlank

/-! ## Words -/

/-- The words of a text, in order. -/
def words (s : String) : List String :=
  ((splitWhere isBlank s.toList).filter (!·.isEmpty)).map String.ofList

/-- The words of a text with a single space between them. -/
def squeeze (s : String) : String := String.intercalate " " (words s)

/-! ## Letter case -/

/-- Lower case over ASCII; every other character stays. -/
def lower (s : String) : String := String.ofList (s.toList.map Char.toLower)

/-- Equal up to the case of ASCII letters. -/
def sameLetters (s t : String) : Bool := lower s == lower t

/-! ## Tests -/

example : (blankRanges.map fun r => r.2 + 1 - r.1).sum = 25 := by decide
example : squeeze " a\n\t b\u3000c " = "a b c" := by decide +kernel
example : squeeze "\u200B" = "\u200B" := by decide +kernel
example : trim "\u00A0 x y\u2029" = "x y" := by decide +kernel

end BoundSql.Text
