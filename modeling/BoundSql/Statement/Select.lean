import BoundSql.Filter

/-!
# Queries

A `Select` is compiled clause by clause in the order that SQL wants, whatever
the order in which the clauses were given.  Table, columns, terms and collation
are trusted text and stand as they are.  An offset counts only together with a
limit.
-/

namespace BoundSql

/-- What a query returns of each row. -/
inductive Columns where
  /-- Every column. -/
  | all
  /-- The listed columns, or every column if there are none. -/
  | listed (columns : List String)
  /-- Trusted text. -/
  | raw (sql : String)
deriving DecidableEq, Repr, Inhabited

/-- The columns as they stand in the statement. -/
def Columns.render : Columns → String
  | .all => "*"
  | .listed [] => "*"
  | .listed columns => String.intercalate ", " columns
  | .raw sql => sql

/-- A query on one table. -/
structure Select where
  /-- The table, or any text that may stand for one. -/
  table : String
  /-- What is returned. -/
  columns : Columns := .all
  /-- Which rows are returned. -/
  filter : Filter := {}
  grouping : List String := []
  order : List String := []
  /-- The greatest number of rows. -/
  limit : Option UInt64 := none
  /-- How many rows are passed over. -/
  offset : Option UInt64 := none
  collation : Option String := none
deriving Repr, Inhabited

namespace Select

/-- A query for every column of every row. -/
def ofTable (table : String) : Select := { table := table }

/-- Changes the filter. -/
def filtering (s : Select) (change : Filter → Filter) : Select :=
  { s with filter := change s.filter }

/-- Returns these columns. -/
def withColumns (s : Select) (columns : List String) : Select :=
  { s with columns := .listed columns }

/-- Returns what the text says. -/
def withColumnsRaw (s : Select) (sql : String) : Select := { s with columns := .raw sql }

/-- More columns to group by. -/
def groupBy (s : Select) (columns : List String) : Select :=
  { s with grouping := s.grouping ++ columns }

/-- One more term to order by. -/
def orderBy (s : Select) (term : String) : Select := { s with order := s.order ++ [term] }

/-- Returns at most this many rows. -/
def take (s : Select) (n : UInt64) : Select := { s with limit := some n }

/-- Passes over this many rows. -/
def skip (s : Select) (n : UInt64) : Select := { s with offset := some n }

/-- Compares with this collation. -/
def collate (s : Select) (collation : String) : Select := { s with collation := some collation }

/-- A clause of comma separated terms, or nothing. -/
def termsClause (keyword : String) (terms : List String) : String :=
  if terms.isEmpty then "" else " " ++ keyword ++ " " ++ String.intercalate ", " terms

/-- The limit, with the offset in front of it. -/
def limitClause (s : Select) : String :=
  match s.limit, s.offset with
  | some limit, some offset => " LIMIT " ++ toString offset.toNat ++ ", " ++ toString limit.toNat
  | some limit, none => " LIMIT " ++ toString limit.toNat
  | none, _ => ""

/-- The clauses after the condition. -/
def tail (s : Select) : String :=
  termsClause "GROUP BY" s.grouping ++ termsClause "ORDER BY" s.order ++ s.limitClause
    ++ (s.collation.map (" COLLATE " ++ ·)).getD ""

/-- The query as a fragment. -/
def fragment (s : Select) : Except Refusal Fragment := do
  if Text.isBlankText s.table then throw .missingTable
  let condition ← s.filter.clause
  pure (.text ("SELECT " ++ s.columns.render ++ " FROM " ++ s.table) ++ condition ++ .text s.tail)

/-- The statement of the query. -/
def build (s : Select) : Except Refusal Statement := s.fragment.map Fragment.statement

/-! ## Tests -/

example : ((ofTable "t" |>.groupBy ["a"] |>.skip 3 |>.orderBy "b DESC" |>.take 2).build.map
    Statement.sql) = .ok "SELECT * FROM t GROUP BY a ORDER BY b DESC LIMIT 3, 2" := by rfl

end Select

end BoundSql
