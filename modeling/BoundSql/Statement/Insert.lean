import BoundSql.Dialect
import BoundSql.Filter

/-!
# Single row inserts

An `Insert` writes one row.  The verb says what happens if the row is already
there, and an update on conflict replaces values of the row that is there.  Its
values are bound after those of the inserted row.
-/

namespace BoundSql

/-- What an insert does about a row that is already there. -/
inductive InsertVerb where
  /-- It fails. -/
  | insert
  /-- It leaves that row alone. -/
  | insertIgnore
  /-- It takes the place of that row. -/
  | replace
deriving DecidableEq, Repr, Inhabited

/-- The spelling of a verb. -/
def InsertVerb.render (d : Dialect) : InsertVerb → String
  | .insert => "INSERT"
  | .insertIgnore => d.insertIgnore
  | .replace => "REPLACE"

/-- An insert of one row. -/
structure Insert where
  table : String
  row : Row
  /-- What to do about a row that is already there. -/
  verb : InsertVerb := .insert
  /-- The columns on which rows collide, and what the row that is there takes. -/
  onConflict : Option (List String × Row) := none
deriving Repr, Inhabited

namespace Insert

/-- Leaves a row that is there alone. -/
def ignore (i : Insert) : Insert := { i with verb := .insertIgnore }

/-- Takes the place of a row that is there. -/
def replace (i : Insert) : Insert := { i with verb := .replace }

/-- Updates a row that is there. -/
def onConflictUpdate (i : Insert) (conflict : List String) (update : Row) : Insert :=
  { i with onConflict := some (conflict, update) }

/-- A column that takes a bound value. -/
def assignment (d : Dialect) (e : String × Value) : Fragment :=
  .text (d.quote e.1 ++ " = ") ++ .bound e.2

/-- The statement up to the values: verb, table and columns. -/
def head (verb : String) (d : Dialect) (table : String) (columns : List String) : String :=
  verb ++ " INTO " ++ d.quote table ++ " (" ++ d.quoteAll columns ++ ") VALUES "

/-- The clause for a row that is there, with the space in front of it. -/
def conflictClause (d : Dialect) : Option (List String × Row) → Except Refusal Fragment
  | none => pure []
  | some (conflict, update) => do
      if update.isEmpty then throw (.emptyData .update)
      pure (.text (" " ++ d.upsertHead conflict)
        ++ .joined ", " (update.entries.map (assignment d)))

/-- The insert as a fragment. -/
def fragment (i : Insert) (d : Dialect) : Except Refusal Fragment := do
  if Text.isBlankText i.table then throw .missingTable
  if i.row.isEmpty then throw (.emptyData .insert)
  let conflict ← conflictClause d i.onConflict
  pure (.text (head (i.verb.render d) d i.table i.row.columns) ++ .tuple i.row.values ++ conflict)

/-- The statement of the insert. -/
def build (i : Insert) (d : Dialect) : Except Refusal Statement :=
  (i.fragment d).map Fragment.statement

end Insert

end BoundSql
