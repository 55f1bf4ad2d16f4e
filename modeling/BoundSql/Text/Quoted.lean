import BoundSql.Text.Visible

/-!
# Quoted text

Texts that appear inside a message as data are put between double quotes.  The
quote and the backslash are escaped, line feed, carriage return, tab and null
have a letter each, and any other character that does not show is written by its
code point in lower case hexadecimal, as in `\u{1f}`.  An apostrophe stays.
-/

namespace BoundSql.Text

/-- A number in lower case hexadecimal. -/
def hex (n : Nat) : String := String.ofList (Nat.toDigits 16 n)

/-- A character as it stands between double quotes. -/
def escapeChar (c : Char) : String :=
  match c with
  | '"' => "\\\""
  | '\\' => "\\\\"
  | '\n' => "\\n"
  | '\r' => "\\r"
  | '\t' => "\\t"
  | '\x00' => "\\0"
  | _ => if isVisible c then c.toString else "\\u\x7b" ++ hex c.toNat ++ "\x7d"

/-- A text between double quotes. -/
def quoted (s : String) : String := "\"" ++ String.join (s.toList.map escapeChar) ++ "\""

/-- A list of texts, each quoted, in square brackets. -/
def quotedList (ss : List String) : String :=
  "[" ++ String.intercalate ", " (ss.map quoted) ++ "]"

/-! ## Tests -/

example : quoted "a\"b\\c'\n\x1f\x7f" = "\"a\\\"b\\\\c'\\n\\u\x7b1f\x7d\\u\x7b7f\x7d\"" := by decide +kernel
example : quoted "é\u200b" = "\"é\\u\x7b200b\x7d\"" := by decide +kernel
example : quotedList ["a", ""] = "[\"a\", \"\"]" := by decide +kernel

end BoundSql.Text
