import BoundSql.Embedded.Command
import BoundSql.Embedded.Token

/-!
# Reading commands

A command is read from its tokens.  The first token that no command goes on with
is at fault.  Operators bind in levels, from `OR` over `AND`, `NOT`, equality and
order to sums, and those of one level from left to right.
-/

namespace BoundSql.Embedded

/-- Reads some of the tokens in front. -/
abbrev Parser (α : Type) := StateT (List Lexeme) (Except SqlFault) α

namespace Parser

/-! ## Single tokens -/

/-- Fails at the next token. -/
def unexpected {α : Type} : Parser α := fun ls =>
  match ls with
  | [] => .error .incomplete
  | l :: _ => .error (.syntaxNear (String.ofList l.spelling))

/-- The next token, which stays. -/
def peek? : Parser (Option Token) := fun ls => .ok (ls.head?.map (·.token), ls)

/-- Drops a token. -/
def advance : Parser Unit := fun ls => .ok ((), ls.tail)

/-- The token is the keyword, in any case. -/
def isKeyword (keyword : String) : Option Token → Bool
  | some (.word s) => Text.sameLetters s keyword
  | _ => false

/-- The token is the symbol. -/
def isSymbol (symbol : String) (t : Option Token) : Bool := t == some (.symbol symbol)

/-- Takes a keyword if it is there. -/
def takeKeyword (keyword : String) : Parser Bool := do
  if isKeyword keyword (← peek?) then advance; pure true
  else pure false

/-- Takes a symbol if it is there. -/
def takeSymbol (symbol : String) : Parser Bool := do
  if isSymbol symbol (← peek?) then advance; pure true
  else pure false

/-- Takes a keyword. -/
def keyword (word : String) : Parser Unit := do
  if !(← takeKeyword word) then unexpected

/-- Takes a symbol. -/
def symbol (s : String) : Parser Unit := do
  if !(← takeSymbol s) then unexpected

/-- The words that are never identifiers. -/
def reserved : List String :=
  ["add", "all", "alter", "and", "as", "autoincrement", "between", "case", "check", "collate",
   "commit", "constraint", "create", "default", "deferrable", "delete", "distinct", "drop", "else",
   "escape", "except", "exists", "foreign", "from", "group", "having", "in", "index", "insert",
   "intersect", "into", "is", "isnull", "join", "limit", "not", "nothing", "notnull", "null", "on",
   "or", "order", "primary", "references", "returning", "select", "set", "table", "then", "to",
   "transaction", "union", "unique", "update", "using", "values", "when", "where"]

/-- The identifier that a token is, if it may be one. -/
def identifier? : Option Token → Option String
  | some (.word s) => if reserved.contains (Text.lower s) then none else some s
  | some (.name s) => some s
  | some (.quoted s) => some s
  | _ => none

/-- An identifier. -/
def identifier : Parser String := do
  match identifier? (← peek?) with
  | some s => advance; pure s
  | none => unexpected

/-- The name of a table or a column, which may be spelled as a text. -/
def name : Parser String := do
  match ← peek? with
  | some (.text s) => advance; pure s
  | _ => identifier

/-- The name of a table, perhaps behind the name of its database. -/
def tableName : Parser TableName := do
  let first ← name
  if ← takeSymbol "." then
    let second ← name
    pure { database := some first, name := second }
  else pure { name := first }

/-! ## Lists -/

/-- The items behind the first one, each behind a comma.  `acc` holds those that
have been read, the last one first. -/
def moreItems {α : Type} (item : Parser α) : Nat → List α → Parser (List α)
  | 0, acc => pure acc.reverse
  | fuel + 1, acc => do
      if ← takeSymbol "," then
        let a ← item
        moreItems item fuel (a :: acc)
      else pure acc.reverse

/-- Items with commas between them. -/
def commaSeparated {α : Type} (item : Parser α) : Parser (List α) := do
  let first ← item
  moreItems item (← get).length [first]

/-- Something between parentheses. -/
def parenthesized {α : Type} (inner : Parser α) : Parser α := do
  symbol "("
  let a ← inner
  symbol ")"
  pure a

/-! ## Expressions -/

/-- The level of the operators that bind weakest. -/
def orLevel : Nat := 0

/-- The level of negation. -/
def notLevel : Nat := 2

/-- The level of equality. -/
def equalityLevel : Nat := 3

/-- The level of single operands. -/
def operandLevel : Nat := 6

/-- The symbols of the operators, with their levels. -/
def symbolOps : List (String × Nat × BinaryOp) :=
  [("=", 3, .eq), ("==", 3, .eq), ("<>", 3, .ne), ("!=", 3, .ne), ("<", 4, .lt), ("<=", 4, .le),
   (">", 4, .gt), (">=", 4, .ge), ("+", 5, .add), ("-", 5, .sub)]

/-- The operator of a level that a token is. -/
def binaryOp? (level : Nat) : Option Token → Option BinaryOp
  | some (.symbol s) =>
      (symbolOps.find? fun e => e.1 == s && e.2.1 == level).map (·.2.2)
  | some (.word s) =>
      if level = 0 && Text.sameLetters s "or" then some .or
      else if level = 1 && Text.sameLetters s "and" then some .and
      else none
  | _ => none

/-- The digits of a hexadecimal number. -/
def hexDigits? : List Char → Option (List Char)
  | '0' :: x :: digits => if x = 'x' || x = 'X' then some digits else none
  | _ => none

/-- A number as a cell.  A hexadecimal one is a word of 64 bits, which may be
negative. -/
def numberCell (spelling : List Char) : Cell :=
  match hexDigits? spelling with
  | some digits =>
      .int (digits.foldl (fun n c => 16 * n + Int64.ofNat ((Url.hexValue? c).getD 0)) 0)
  | none => (Cell.numberOf? (String.ofList spelling)).getD .null

/-- The negative of a number, which may be the least integer. -/
def negativeNumber (spelling : List Char) : Cell :=
  match readWord? (String.ofList ('-' :: spelling)) with
  | some n => .int n
  | none => (numberCell spelling).negate

/-- A word that is a literal. -/
def literalWord? (s : String) : Option Cell :=
  if Text.sameLetters s "null" then some .null
  else if Text.sameLetters s "true" then some (.int 1)
  else if Text.sameLetters s "false" then some (.int 0)
  else none

/-- A column, behind the name of its table if a point follows.  Otherwise the
name stands alone. -/
def columnBehind (first : String) (alone : Expr) : Parser Expr := do
  if ← takeSymbol "." then
    let second ← name
    pure (.column (some first) second)
  else pure alone

mutual

/-- An expression whose operators are of this level or a later one. -/
def exprAt : Nat → Nat → Parser Expr
  | 0, _ => unexpected
  | fuel + 1, level => do
      if operandLevel ≤ level then operand fuel
      else if level = notLevel then
        if ← takeKeyword "not" then
          let e ← exprAt fuel notLevel
          pure (.not e)
        else exprAt fuel (notLevel + 1)
      else
        let left ← exprAt fuel (level + 1)
        moreOperands fuel level left

/-- The operators of a level behind a first operand. -/
def moreOperands : Nat → Nat → Expr → Parser Expr
  | 0, _, _ => unexpected
  | fuel + 1, level, left => do
      let next ← peek?
      match binaryOp? level next with
      | some op =>
          advance
          let right ← exprAt fuel (level + 1)
          moreOperands fuel level (.binary op left right)
      | none =>
          if level = equalityLevel && isKeyword "is" next then
            advance
            let op := if ← takeKeyword "not" then BinaryOp.isNot else BinaryOp.is
            let right ← exprAt fuel (level + 1)
            moreOperands fuel level (.binary op left right)
          else if level = equalityLevel && isKeyword "in" next then
            advance
            let items ← operands fuel
            moreOperands fuel level (.isIn left items)
          else if level = equalityLevel && isKeyword "not" next then
            advance
            keyword "in"
            let items ← operands fuel
            moreOperands fuel level (.not (.isIn left items))
          else pure left

/-- Expressions between parentheses, or none. -/
def operands : Nat → Parser (List Expr)
  | 0 => unexpected
  | fuel + 1 => do
      symbol "("
      if ← takeSymbol ")" then pure []
      else
        let first ← exprAt fuel orLevel
        operandsBehind fuel [first]

/-- The expressions behind the first one, up to the closing parenthesis.  `acc`
holds those that have been read, the last one first. -/
def operandsBehind : Nat → List Expr → Parser (List Expr)
  | 0, _ => unexpected
  | fuel + 1, acc => do
      if ← takeSymbol "," then
        let next ← exprAt fuel orLevel
        operandsBehind fuel (next :: acc)
      else
        symbol ")"
        pure acc.reverse

/-- A single operand. -/
def operand : Nat → Parser Expr
  | 0 => unexpected
  | fuel + 1 => do
      match ← peek? with
      | some (.number spelling) => advance; pure (.literal (numberCell spelling))
      | some (.text s) => advance; pure (.literal (.text s))
      | some (.blob bytes) => advance; pure (.literal (.blob bytes))
      | some (.param index) => advance; pure (.param index)
      | some (.symbol "(") => do
          advance
          let e ← exprAt fuel orLevel
          symbol ")"
          pure e
      | some (.symbol "-") => do
          advance
          match ← peek? with
          | some (.number spelling) => advance; pure (.literal (negativeNumber spelling))
          | _ => .negate <$> operand fuel
      | some (.symbol "+") => do
          advance
          operand fuel
      | some (.word s) =>
          match literalWord? s with
          | some c => advance; pure (.literal c)
          | none => do
              let first ← identifier
              if isSymbol "(" (← peek?) then callBehind fuel first
              else columnBehind first (.column none first)
      | some (.name s) => advance; columnBehind s (.column none s)
      | some (.quoted s) => advance; columnBehind s (.quoted s)
      | _ => unexpected

/-- The arguments of a function, or a star. -/
def callBehind : Nat → String → Parser Expr
  | 0, _ => unexpected
  | fuel + 1, function => do
      let lexemes ← get
      if isSymbol "*" (lexemes[1]?.map (·.token)) then
        symbol "("
        symbol "*"
        symbol ")"
        pure (.call function [])
      else
        let arguments ← operands fuel
        pure (.call function arguments)

end

/-- An expression. -/
def expr : Parser Expr := do
  exprAt (8 * (← get).length + 16) orLevel

/-- An expression behind a keyword, if the keyword is there. -/
def clause? (word : String) : Parser (Option Expr) := do
  if ← takeKeyword word then some <$> expr
  else pure none

/-! ## Queries -/

/-- The characters of the tokens that have been taken since. -/
def spelledSince (before after : List Lexeme) : String :=
  match before.take (before.length - after.length) with
  | [] => ""
  | first :: rest => String.ofList (first.spelling ++ rest.flatMap fun l => l.gap ++ l.spelling)

/-- Another name, if there is one. -/
def label? : Parser (Option String) := do
  if ← takeKeyword "as" then some <$> name
  else
    match ← peek? with
    | some (.text s) => advance; pure (some s)
    | t =>
        match identifier? t with
        | some s => advance; pure (some s)
        | none => pure none

/-- Something that a query returns. -/
def item : Parser Item := do
  if ← takeSymbol "*" then pure .all
  else
    let before ← get
    let e ← expr
    let spelling := spelledSince before (← get)
    let label ← label?
    pure (.expr e label spelling)

/-- Where a query takes its rows from. -/
def source : Parser Source := do
  if ← takeSymbol "(" then
    keyword "select"
    let items ← commaSeparated item
    symbol ")"
    let label ← label?
    pure (.row items label)
  else
    let table ← tableName
    let label ← label?
    pure (.table table label)

/-- A term of an order. -/
def orderTerm : Parser (Expr × Bool) := do
  let e ← expr
  if ← takeKeyword "desc" then pure (e, true)
  else
    let _ ← takeKeyword "asc"
    pure (e, false)

/-- How many rows are passed over and returned. -/
def limit? : Parser (Option (Expr × Expr)) := do
  if ← takeKeyword "limit" then
    let first ← expr
    if ← takeSymbol "," then
      let second ← expr
      pure (some (first, second))
    else if ← takeKeyword "offset" then
      let offset ← expr
      pure (some (offset, first))
    else pure (some (.literal (.int 0), first))
  else pure none

/-- A query behind its keyword. -/
def query : Parser Query := do
  let items ← commaSeparated item
  let source ← if ← takeKeyword "from" then some <$> source else pure none
  let condition ← clause? "where"
  let order ← if ← takeKeyword "order" then do
      keyword "by"
      commaSeparated orderTerm
    else pure []
  let limit ← limit?
  pure { items, source, condition, order, limit }

/-! ## Definitions -/

/-- The words that end the type of a column. -/
def endsType (t : Option Token) : Bool :=
  ["constraint", "primary", "not", "null", "unique", "default", "check", "collate", "references",
   "generated", "as"].any fun w => isKeyword w t

/-- The words of a type, one after the other. -/
def typeWords : Nat → List String → Parser (List String)
  | 0, acc => pure acc.reverse
  | fuel + 1, acc => do
      let t ← peek?
      if endsType t then pure acc.reverse
      else
        match t with
        | some (.word s) => advance; typeWords fuel (s :: acc)
        | some (.name s) => advance; typeWords fuel (s :: acc)
        | some (.quoted s) => advance; typeWords fuel (s :: acc)
        | some (.text s) => advance; typeWords fuel (s :: acc)
        | _ => pure acc.reverse

/-- A number in a type, with its sign. -/
def typeNumber : Parser String := do
  let sign := if ← takeSymbol "-" then "-" else ""
  let _ ← takeSymbol "+"
  match ← peek? with
  | some (.number spelling) => advance; pure (sign ++ String.ofList spelling)
  | _ => unexpected

/-- The declared type of a column. -/
def columnType : Parser String := do
  let words ← typeWords (← get).length []
  let type := String.intercalate " " words
  if !words.isEmpty && isSymbol "(" (← peek?) then
    let numbers ← parenthesized (commaSeparated typeNumber)
    pure (type ++ "(" ++ String.intercalate "," numbers ++ ")")
  else pure type

/-- The constraints of a column, one after the other. -/
def columnConstraints : Nat → ColumnDef → Parser ColumnDef
  | 0, c => pure c
  | fuel + 1, c => do
      if ← takeKeyword "primary" then
        keyword "key"
        let autoincrement ← takeKeyword "autoincrement"
        columnConstraints fuel
          { c with primaryKey := true, autoincrement := c.autoincrement || autoincrement }
      else if ← takeKeyword "not" then
        keyword "null"
        columnConstraints fuel { c with notNull := true }
      else if ← takeKeyword "null" then columnConstraints fuel c
      else if ← takeKeyword "unique" then columnConstraints fuel { c with unique := true }
      else pure c

/-- The definition of a column. -/
def columnDef : Parser ColumnDef := do
  let columnName ← name
  let type ← columnType
  columnConstraints (← get).length { name := columnName, type }

/-- The definition of a table behind its first word. -/
def create : Parser Command := do
  keyword "table"
  let ifNotExists ← takeKeyword "if"
  if ifNotExists then
    keyword "not"
    keyword "exists"
  let before ← get
  let table ← tableName
  let spelling := spelledSince before (← get)
  let columns ← parenthesized (commaSeparated columnDef)
  pure (.create table spelling ifNotExists columns)

/-! ## Writes -/

/-- A column with the expression that it takes. -/
def assignment : Parser (String × Expr) := do
  let column ← name
  symbol "="
  let e ← expr
  pure (column, e)

/-- What is done to a row that is already there. -/
def merge? : Parser (Option Merge) := do
  if ← takeKeyword "on" then
    keyword "conflict"
    let target ← parenthesized (commaSeparated expr)
    keyword "do"
    keyword "update"
    keyword "set"
    let assignments ← commaSeparated assignment
    pure (some { target, assignments })
  else pure none

/-- The way to deal with a row that is already there.  `FAIL` and `ROLLBACK`
reject the statement as `ABORT` does. -/
def resolution : Parser Resolution := do
  if ← takeKeyword "or" then
    if ← takeKeyword "ignore" then pure .ignore
    else if ← takeKeyword "replace" then pure .replace
    else if ← takeKeyword "fail" then pure .abort
    else if ← takeKeyword "rollback" then pure .abort
    else
      keyword "abort"
      pure .abort
  else pure .abort

/-- An insert behind its verb. -/
def insert (resolution : Resolution) : Parser Command := do
  keyword "into"
  let table ← tableName
  let columns ← if isSymbol "(" (← peek?) then some <$> parenthesized (commaSeparated name)
    else pure none
  keyword "values"
  let rows ← commaSeparated (parenthesized (commaSeparated expr))
  let merge ← merge?
  pure (.insert resolution table columns rows merge)

/-! ## Commands -/

/-- A command. -/
def command : Parser Command := do
  if ← takeKeyword "select" then .select <$> query
  else if ← takeKeyword "insert" then insert (← resolution)
  else if ← takeKeyword "replace" then insert .replace
  else if ← takeKeyword "update" then
    let table ← tableName
    keyword "set"
    let assignments ← commaSeparated assignment
    let condition ← clause? "where"
    pure (.update table assignments condition)
  else if ← takeKeyword "delete" then
    keyword "from"
    let table ← tableName
    let condition ← clause? "where"
    pure (.delete table condition)
  else if ← takeKeyword "create" then create
  else if ← takeKeyword "begin" then pure .start
  else if ← takeKeyword "commit" then pure .commit
  else if ← takeKeyword "rollback" then pure .rollback
  else unexpected

/-- Commands up to the first fault, and the fault. -/
abbrev Parsed := List Command × Option SqlFault

/-- Commands with semicolons between them.  `ending` is what is wrong behind the
tokens, and `acc` holds the commands that have been read, the last one first. -/
def parsedFrom (ending : Option SqlFault) : Nat → List Command → List Lexeme → Parsed
  | 0, acc, _ => (acc.reverse, ending)
  | _, acc, [] => (acc.reverse, ending)
  | fuel + 1, acc, l :: ls =>
      if l.token = .symbol ";" then parsedFrom ending fuel acc ls
      else match command (l :: ls) with
        | .error .incomplete => (acc.reverse, some (ending.getD .incomplete))
        | .error fault => (acc.reverse, some fault)
        | .ok (c, []) =>
            if ending.isNone then ((c :: acc).reverse, none) else (acc.reverse, ending)
        | .ok (c, next :: rest) =>
            if next.token = .symbol ";" then parsedFrom ending fuel (c :: acc) rest
            else (acc.reverse, some (.syntaxNear (String.ofList next.spelling)))

end Parser

/-- The commands of a text. -/
def commands (sql : String) : Parser.Parsed :=
  let (lexemes, ending) := Lexeme.scan sql
  Parser.parsedFrom ending (lexemes.length + 1) [] lexemes

/-! ## Tests -/

/-- The number of commands in a text, and the words for the fault behind them. -/
def sampleSummary (sql : String) : Nat × Option String :=
  let (found, fault) := commands sql
  (found.length, fault.map (·.message))

example : sampleSummary "BEGIN; ; COMMIT" = (2, none)
    ∧ sampleSummary "BEGIN; DROP x" = (1, some "near \"DROP\": syntax error")
    ∧ sampleSummary "BEGIN @" = (0, some "unrecognized token: \"@\"")
    ∧ sampleSummary "BEGIN; DELETE" = (1, some "incomplete input") := by decide +kernel

end BoundSql.Embedded
