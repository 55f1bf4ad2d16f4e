import BoundSql.Refusal

/-!
# Upsert policies

An upsert policy says how a row that is already there takes up an inserted one.
Some columns are overwritten by the inserted value, in others the inserted value
is added.
-/

namespace BoundSql

/-- What is merged when an inserted row meets an existing one. -/
structure UpsertPolicy where
  /-- The columns that take the inserted value. -/
  updated : List String := []
  /-- The columns to which the inserted value is added. -/
  incremented : List String := []
deriving DecidableEq, Repr, Inhabited

namespace UpsertPolicy

/-- More columns that take the inserted value. -/
def update (p : UpsertPolicy) (columns : List String) : UpsertPolicy :=
  { p with updated := p.updated ++ columns }

/-- More columns to which the inserted value is added. -/
def increment (p : UpsertPolicy) (columns : List String) : UpsertPolicy :=
  { p with incremented := p.incremented ++ columns }

/-- The columns of a policy, the updated ones first. -/
def columns (p : UpsertPolicy) : List String := p.updated ++ p.incremented

/-- Refuses a policy that merges nothing, treats a column in two ways, or
mentions a column that is not inserted. -/
def validate (p : UpsertPolicy) (inserted : List String) : Except Refusal Unit :=
  if p.columns.isEmpty then .error .emptyUpsertPolicy
  else match p.incremented.find? p.updated.contains with
    | some column => .error (.conflictingUpsertColumn column)
    | none =>
        match p.columns.find? fun c => !inserted.contains c with
        | some column => .error (.unknownUpsertColumn column)
        | none => .ok ()

end UpsertPolicy

end BoundSql
