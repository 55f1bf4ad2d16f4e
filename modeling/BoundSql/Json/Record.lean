import BoundSql.Json.Reader

/-!
# Records

A record has named fields in a fixed order.  Its JSON text is an object with the
fields as members in any order, or an array of the fields in their order.
Members with other names are passed over.  A member that is there twice is a
mismatch when its name is met again, a required one that is missing when the end
of the object or array is met.

What has been read of a record is a *draft* of it.
-/

namespace BoundSql.Json

/-- A field of a record with drafts of type `δ`. -/
structure RecordField (δ : Type) where
  name : String
  /-- Another name for the field. -/
  otherName : Option String := none
  /-- The field has been read. -/
  isSet : δ → Bool
  read : Nat → δ → Reader δ

/-- The name means the field. -/
def RecordField.hasName {δ : Type} (f : RecordField δ) (name : String) : Bool :=
  f.name == name || f.otherName == some name

/-- A record of type `α` with drafts of type `δ`. -/
structure RecordShape (δ α : Type) where
  /-- The words for the record. -/
  expected : String
  fields : List (RecordField δ)
  /-- The draft before anything is read. -/
  start : δ
  /-- Completes a draft.  The function gives the mismatch for a required field
  that is missing, by its position and its name. -/
  complete : (Nat → String → Mismatch) → δ → Except Mismatch α

namespace RecordShape

variable {δ α : Type}

/-- One member of the object. -/
def member (shape : RecordShape δ α) (budget : Nat) (draft : δ) (name : String) : Reader δ := do
  match shape.fields.find? (·.hasName name) with
  | none => colon; skip budget; pure draft
  | some field =>
      if field.isSet draft then fail (.duplicateField field.name)
      else colon; field.read budget draft

/-- The items of the array, one for each field as long as there are any. -/
def itemsOf (budget : Nat) : List (RecordField δ) → Bool → δ → Reader δ
  | [], _, draft => pure draft
  | field :: fields, first, draft => do
      if ← nextItem first then itemsOf budget fields false (← field.read budget draft)
      else pure draft

/-- Completes a draft or fails. -/
def finish (shape : RecordShape δ α) (missing : Nat → String → Mismatch) (draft : δ) : Reader α :=
  match shape.complete missing draft with
  | .ok record => pure record
  | .error cause => fail cause

/-- The words for the record as an array. -/
def expectedItems (shape : RecordShape δ α) : String :=
  shape.expected ++ " with " ++ toString shape.fields.length ++ " elements"

/-- Reads a record. -/
def read (shape : RecordShape δ α) (budget : Nat) : Reader α := do
  let c ← peek
  if c = '\x7b' then
    advance
    let draft ← foldMembers (shape.member budget) (budget + 1) true shape.start
    let record ← shape.finish (fun _ name => .missingField name) draft
    advance
    pure record
  else if c = '[' then
    advance
    let draft ← itemsOf budget shape.fields true shape.start
    let record ← shape.finish (fun position _ => .invalidLength position shape.expectedItems) draft
    closeArray
    pure record
  else mismatchAt c shape.expected

end RecordShape

end BoundSql.Json
