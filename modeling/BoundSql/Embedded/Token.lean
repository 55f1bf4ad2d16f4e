import BoundSql.Embedded.Fault
import BoundSql.Url.Percent

/-!
# Tokens of SQL

A statement is cut into tokens.  Blanks and comments separate them and are
otherwise of no account.  Words are identifiers or keywords; which of the two
depends on the place.  Identifiers between quotes of any of three kinds are never
keywords.  A quote that is doubled stands for itself.

The placeholders are numbered from left to right.
-/

namespace BoundSql.Embedded

/-- A token. -/
inductive Token where
  /-- An identifier or a keyword. -/
  | word (s : String)
  /-- An identifier between backticks or brackets. -/
  | name (s : String)
  /-- An identifier between double quotes, which stands for a text where nothing
  has that name. -/
  | quoted (s : String)
  /-- A text between apostrophes. -/
  | text (s : String)
  /-- Bytes in hexadecimal. -/
  | blob (bytes : List UInt8)
  | number (spelling : List Char)
  /-- A placeholder. -/
  | param (index : Nat)
  /-- An operator or a punctuation mark. -/
  | symbol (s : String)
deriving DecidableEq, Repr

/-- A token with the characters that spell it, and those between it and the token
in front of it. -/
structure Lexeme where
  /-- The blanks and comments in front. -/
  gap : List Char
  /-- The characters of the token. -/
  spelling : List Char
  token : Token
deriving DecidableEq, Repr

namespace Lexeme

/-! ## Between tokens -/

/-- A blank that may stand behind a token. -/
def isBlank (c : Char) : Bool := [' ', '\t', '\n', '\r', '\x0c', '\uFEFF'].contains c

/-- A blank that may stand behind another one. -/
def isMoreBlank (c : Char) : Bool := c == '\x0b' || (isBlank c && c != '\uFEFF')

/-- A comment up to the characters that end it, and the rest. -/
def cutComment : List Char → List Char × List Char
  | '*' :: '/' :: rest => (['*', '/'], rest)
  | [] => ([], [])
  | c :: cs =>
      let (comment, rest) := cutComment cs
      (c :: comment, rest)

/-- Blanks and comments in front of a text, and the rest. -/
def cutGap : Nat → List Char → List Char × List Char
  | 0, cs => ([], cs)
  | fuel + 1, cs =>
      match cs with
      | '-' :: '-' :: rest =>
          let (line, rest) := rest.span (· != '\n')
          let (more, rest) := cutGap fuel rest
          ('-' :: '-' :: line ++ more, rest)
      | '/' :: '*' :: rest =>
          let (comment, rest) := cutComment rest
          let (more, rest) := cutGap fuel rest
          ('/' :: '*' :: comment ++ more, rest)
      | c :: rest =>
          if isBlank c then
            let (blanks, rest) := rest.span fun d => c != '\uFEFF' && isMoreBlank d
            let (more, rest) := cutGap fuel rest
            (c :: blanks ++ more, rest)
          else ([], cs)
      | [] => ([], [])

/-! ## Quotes -/

/-- The characters up to a closing quote that is not doubled, and the rest behind
it.  There are none if the quote is missing.  `acc` holds those that have been
taken, the last one first. -/
def cutQuotedFrom (quote : Char) : List Char → List Char → Option (List Char × List Char)
  | _, [] => none
  | acc, [c] => if c = quote then some (acc.reverse, []) else none
  | acc, c :: d :: cs =>
      if c = quote then
        if d = quote then cutQuotedFrom quote (quote :: acc) cs
        else some (acc.reverse, d :: cs)
      else cutQuotedFrom quote (c :: acc) (d :: cs)

/-- The bytes of hexadecimal digits in pairs. -/
def hexBytes? : List Char → Option (List UInt8)
  | [] => some []
  | hi :: lo :: rest => do
      let h ← Url.hexValue? hi
      let l ← Url.hexValue? lo
      some (UInt8.ofNat (16 * h + l) :: (← hexBytes? rest))
  | [_] => none

/-! ## Words and numbers -/

/-- A character that begins a word. -/
def beginsWord (c : Char) : Bool := c.isAlpha || c == '_' || decide (0x80 ≤ c.toNat)

/-- A character within a word. -/
def isWordChar (c : Char) : Bool := beginsWord c || c.isDigit || c == '$'

/-- An exponent in front of a text, and the rest. -/
def cutExponent : List Char → List Char × List Char
  | c :: cs =>
      if c = 'e' || c = 'E' then
        let (sign, digits) := match cs with
          | '+' :: rest => (['+'], rest)
          | '-' :: rest => (['-'], rest)
          | _ => ([], cs)
        match digits.span isDigit with
        | ([], _) => ([], c :: cs)
        | (ds, rest) => (c :: sign ++ ds, rest)
      else ([], c :: cs)
  | [] => ([], [])

/-- A decimal number in front of a text, and the rest. -/
def cutDecimal (cs : List Char) : List Char × List Char :=
  let (whole, rest) := cs.span isDigit
  let (fraction, rest) := match rest with
    | '.' :: rest' =>
        let (ds, rest'') := rest'.span isDigit
        ('.' :: ds, rest'')
    | _ => ([], rest)
  let (exponent, rest) := cutExponent rest
  (whole ++ fraction ++ exponent, rest)

/-- A hexadecimal digit. -/
def isHexDigit (c : Char) : Bool := (Url.hexValue? c).isSome

/-- A number in front of a text, and the rest.  It is hexadecimal behind a zero
and an `x`. -/
def cutNumber : List Char → List Char × List Char
  | '0' :: x :: c :: cs =>
      if (x = 'x' || x = 'X') && isHexDigit c then
        let (digits, rest) := cs.span isHexDigit
        ('0' :: x :: c :: digits, rest)
      else cutDecimal ('0' :: x :: c :: cs)
  | cs => cutDecimal cs

/-! ## Tokens -/

/-- The operators of two characters. -/
def pairs : List String := ["<=", ">=", "<>", "!=", "==", "||"]

/-- The operators and marks of one character. -/
def singles : List Char := ['(', ')', ',', ';', '=', '<', '>', '+', '-', '*', '/', '%', '.']

/-- A quoted token: its spelling, the token and the rest. -/
def quotedToken (quote : Char) (token : String → Token) (cs : List Char) :
    Except SqlFault (List Char × Token × List Char) :=
  match cutQuotedFrom quote [] cs with
  | none => .error (.unrecognized (String.ofList (quote :: cs)))
  | some (inner, rest) =>
      let body := inner.flatMap fun c => if c = quote then [c, c] else [c]
      .ok (quote :: body ++ [quote], token (String.ofList inner), rest)

/-- An identifier between brackets. -/
def bracketToken (cs : List Char) : Except SqlFault (List Char × Token × List Char) :=
  match cs.span (· != ']') with
  | (_, []) => .error (.unrecognized (String.ofList ('[' :: cs)))
  | (inner, _ :: rest) => .ok ('[' :: inner ++ [']'], .name (String.ofList inner), rest)

/-- The token in front of a text that begins with the character: its spelling, the
token and the rest. -/
def cutToken (index : Nat) (c : Char) (cs : List Char) :
    Except SqlFault (List Char × Token × List Char) :=
  if c = '\'' then quotedToken c .text cs
  else if c = '"' then quotedToken c .quoted cs
  else if c = '\x60' then quotedToken c .name cs
  else if c = '[' then bracketToken cs
  else if c = '?' then .ok ([c], .param index, cs)
  else if (c = 'x' || c = 'X') && cs.head? = some '\'' then
    let (digits, rest) := cs.tail.span (· != '\'')
    match hexBytes? digits, rest with
    | some bytes, '\'' :: rest => .ok (c :: '\'' :: digits ++ ['\''], .blob bytes, rest)
    | _, _ => .error (.unrecognized (String.ofList (c :: '\'' :: digits ++ rest.take 1)))
  else if beginsWord c then
    let (more, rest) := cs.span isWordChar
    .ok (c :: more, .word (String.ofList (c :: more)), rest)
  else if c.isDigit || (c = '.' && cs.head?.any Char.isDigit) then
    let (number, rest) := cutNumber (c :: cs)
    let junk := rest.takeWhile isWordChar
    if junk.isEmpty then .ok (number, .number number, rest)
    else .error (.unrecognized (String.ofList (number ++ junk)))
  else
    let pair := String.ofList (c :: cs.take 1)
    if pairs.contains pair then .ok (c :: cs.take 1, .symbol pair, cs.drop 1)
    else if singles.contains c then .ok ([c], .symbol c.toString, cs)
    else .error (.unrecognized c.toString)

/-- The tokens of a text up to the first characters that are none, and what is
wrong with those. -/
abbrev Scan := List Lexeme × Option SqlFault

/-- The tokens of a text in which so many placeholders stand in front.  `acc`
holds the tokens that have been taken, the last one first. -/
def scanFrom : Nat → Nat → List Lexeme → List Char → Scan
  | 0, _, acc, _ => (acc.reverse, none)
  | fuel + 1, index, acc, cs =>
      match cutGap fuel cs with
      | (_, []) => (acc.reverse, none)
      | (gap, c :: rest) =>
          match cutToken index c rest with
          | .error fault => (acc.reverse, some fault)
          | .ok (spelling, token, rest) =>
              let next := if token = .param index then index + 1 else index
              scanFrom fuel next (⟨gap, spelling, token⟩ :: acc) rest

/-- The tokens of a text. -/
def scan (s : String) : Scan :=
  let cs := s.toList
  scanFrom (cs.length + 2) 0 [] cs

/-! ## Tests -/

/-- The tokens of a text that has nothing else. -/
def tokens? (s : String) : Option (List Token) :=
  match scan s with
  | (lexemes, none) => some (lexemes.map (·.token))
  | _ => none

example : tokens? "a/**/ = ? -- x\n<> 'it''s'" = some
    [.word "a", .symbol "=", .param 0, .symbol "<>", .text "it's"] := by decide +kernel
example : tokens? "\"a\"\"b\" [c d] X'00fF' 1.5e3 .5 0x1F" = some
    [.quoted "a\"b", .name "c d", .blob [0, 255], .number "1.5e3".toList, .number ".5".toList,
      .number "0x1F".toList] := by
  decide +kernel
example : tokens? "'x" = none ∧ tokens? "1a" = none ∧ tokens? "\x0b" = none
    ∧ tokens? " \x0b" = some [] := by decide +kernel

end Lexeme

end BoundSql.Embedded
