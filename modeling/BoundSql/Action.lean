import BoundSql.Batch.Plan
import BoundSql.Dialect
import BoundSql.Driver

/-!
# Actions

An *action* on a database in a state of type `σ` ends with a result or a failure,
leaves the database in some state, and has *effects*: the statements that it sent,
the changes that it reported, and the records that it logged, in this order in
time.  The effects of an action are those of its parts, one after the other, and
an action that fails keeps the effects that it had until then.

A sum of words that is no word has an effect of its own.  A program that checks its
sums does nothing from there on: what counts of it are the effects up to the first one
of this kind.  A program that does not goes on with the sum wrapped around.
-/

namespace BoundSql

/-! ## Statements sent -/

/-- The two ways to send a statement. -/
inductive CallKind where
  /-- For its outcome. -/
  | execute
  /-- For its rows. -/
  | fetchAll
deriving DecidableEq, Repr

/-- A statement that was sent. -/
structure Call where
  /-- The way it was sent. -/
  kind : CallKind
  statement : Statement
deriving Repr

/-! ## Changes reported -/

/-- The kinds of write that are reported. -/
inductive ChangeKind where
  | insert
  /-- A row was inserted in place of others. -/
  | replace
  | update
  /-- A column of a row was incremented. -/
  | increment
  | delete
deriving DecidableEq, Repr

/-- A row that changed: the new row of an insert, the old one of any other write. -/
structure ChangeEvent where
  table : String
  kind : ChangeKind
  /-- The primary key of the row. -/
  id : Value
  row : Row
deriving Repr

/-- The ways in which changes are reported. -/
inductive ObserverKind where
  | callback
  /-- Through a channel, which may have no receiver any more. -/
  | channel (isOpen : Bool)
deriving DecidableEq, Repr

/-- Someone to whom changes are reported. -/
structure Observer where
  name : String
  /-- The way in which it is told. -/
  kind : ObserverKind
deriving DecidableEq, Repr

/-! ## Records logged -/

/-- How much a log record matters. -/
inductive LogLevel where
  /-- It helps to find an error. -/
  | debug
  /-- It says what is going on. -/
  | info
  /-- Something may be wrong. -/
  | warn
  /-- Something is wrong. -/
  | error
deriving DecidableEq, Repr

/-- The word for a level. -/
def LogLevel.word : LogLevel → String
  | debug => "DEBUG"
  | info => "INFO"
  | warn => "WARN"
  | error => "ERROR"

/-- What is worth a log record. -/
inductive LogRecord where
  | connected (driver host database : String)
  /-- More parameters were asked for than a statement may have. -/
  | clampedCeiling (requested limit : UInt64) (dialect : Dialect)
  /-- A statement was run. -/
  | executed (statement : Statement) (affected : UInt64)
  /-- A query was run. -/
  | fetched (statement : Statement) (rows : Nat)
  | rejected (statement : Statement) (cause : DriverFailure)
  /-- A transaction could not be undone. -/
  | rollbackFailed (failure : Failure)
  /-- The dialect has no options for a table that asks for some. -/
  | optionsIgnored (table : String) (dialect : Dialect)
  | createdTable (table : String)
  /-- An update without conditions was not sent. -/
  | skippedUpdate (table : String)
  /-- A delete without conditions was not sent. -/
  | skippedDelete (table : String)
  /-- The rows from a position up to another were written. -/
  | chunkWritten (table : String) (start stop affected : UInt64)
  /-- All rows of a batch were written. -/
  | batchFinished (table : String) (rows chunks affected : UInt64)
  /-- A change was reported to no one. -/
  | receiverDropped (table : String)
  /-- The rows of a file were loaded. -/
  | loaded (table : String) (rows : Nat) (affected : UInt64)
deriving Repr

namespace LogRecord

/-- How much the record matters. -/
def level : LogRecord → LogLevel
  | connected .. | createdTable .. | batchFinished .. | loaded .. => .info
  | rejected _ cause => if cause.isUniqueViolation then .debug else .error
  | rollbackFailed .. | optionsIgnored .. => .warn
  | _ => .debug

/-- What the record says. -/
def text : LogRecord → String
  | connected .. => "Connected"
  | clampedCeiling .. => "Clamped bound parameter ceiling"
  | executed .. => "Executed statement"
  | fetched .. => "Fetched rows"
  | rejected _ cause => if cause.isUniqueViolation then "Duplicate key" else "Statement failed"
  | rollbackFailed .. => "Rollback failed"
  | optionsIgnored .. => "Table options are not supported by this dialect, skipping"
  | createdTable .. => "Created table"
  | skippedUpdate .. => "Skipping update without conditions"
  | skippedDelete .. => "Skipping delete without conditions"
  | chunkWritten .. => "Batch chunk written"
  | batchFinished .. => "Batch insert finished"
  | receiverDropped .. => "Change receiver dropped"
  | loaded .. => "Loaded rows"

/-- A word as a decimal number. -/
def count (n : UInt64) : String := toString n.toNat

/-- What the record is about, field by field. -/
def fields : LogRecord → List (String × String)
  | connected driver host database =>
      [("driver", driver), ("host", host), ("database", database)]
  | clampedCeiling requested limit dialect =>
      [("requested", count requested), ("limit", count limit), ("dialect", dialect.name)]
  | executed statement affected =>
      [("sql", statement.sql), ("params", toString statement.params.length),
       ("rows_affected", count affected)]
  | fetched statement rows =>
      [("sql", statement.sql), ("params", toString statement.params.length),
       ("rows", toString rows)]
  | rejected statement cause =>
      [("sql", Text.squeeze statement.sql), ("error", cause.report)]
  | rollbackFailed failure => [("error", failure.message)]
  | optionsIgnored table dialect => [("table", table), ("dialect", dialect.name)]
  | createdTable table => [("table", table)]
  | skippedUpdate table => [("table", table)]
  | skippedDelete table => [("table", table)]
  | chunkWritten table start stop affected =>
      [("table", table), ("rows", count start ++ ".." ++ count stop),
       ("rows_affected", count affected)]
  | batchFinished table rows chunks affected =>
      [("table", table), ("rows", count rows), ("chunks", count chunks),
       ("rows_affected", count affected)]
  | receiverDropped table => [("table", table)]
  | loaded table rows affected =>
      [("table", table), ("rows", toString rows), ("rows_affected", count affected)]

/-- The record on a line of its own. -/
def line (r : LogRecord) : String :=
  (if r.level.word.length < 5 then " " else "") ++ r.level.word ++ " " ++ r.text
    ++ String.join (r.fields.map fun f => " " ++ f.1 ++ "=" ++ f.2)

end LogRecord

/-! ## Effects -/

/-- Something that an action does besides ending with a result. -/
inductive Effect where
  | sent (call : Call)
  | reported (observer : Observer) (event : ChangeEvent)
  | logged (record : LogRecord)
  /-- A sum of words was no word.  A program that checks its sums stops here. -/
  | overflowed
deriving Repr

namespace Effect

/-- The statement that is sent. -/
def call? : Effect → Option Call
  | sent call => some call
  | _ => none

/-- The change that is reported. -/
def event? : Effect → Option ChangeEvent
  | reported _ event => some event
  | _ => none

/-- The record that is logged. -/
def record? : Effect → Option LogRecord
  | logged record => some record
  | _ => none

/-- A sum was no word. -/
def isOverflow : Effect → Bool
  | overflowed => true
  | _ => false

end Effect

/-! ## Actions -/

/-- The end of an action. -/
structure Ending (σ α : Type) where
  /-- The result, or why there is none. -/
  result : Except Failure α
  state : σ
  /-- What the action did, in order. -/
  effects : List Effect

namespace Ending

variable {σ α : Type}

/-- The statements that were sent, in order. -/
def calls (e : Ending σ α) : List Call := e.effects.filterMap Effect.call?

/-- The changes that were reported, in order. -/
def events (e : Ending σ α) : List ChangeEvent := e.effects.filterMap Effect.event?

/-- The records that were logged, in order. -/
def records (e : Ending σ α) : List LogRecord := e.effects.filterMap Effect.record?

/-- Some sum on the way was no word. -/
def overflows (e : Ending σ α) : Bool := e.effects.any Effect.isOverflow

end Ending

/-- Something to do with a database. -/
structure Action (σ α : Type) where
  /-- Does it, in some state of the database. -/
  run : σ → Ending σ α

namespace Action

variable {σ α β : Type}

/-- Does nothing. -/
def done (a : α) : Action σ α := ⟨fun s => ⟨.ok a, s, []⟩⟩

/-- One action after another that depends on its result. -/
def andThen (x : Action σ α) (next : α → Action σ β) : Action σ β :=
  ⟨fun s =>
    let first := x.run s
    match first.result with
    | .error failure => ⟨.error failure, first.state, first.effects⟩
    | .ok a =>
        let second := (next a).run first.state
        ⟨second.result, second.state, first.effects ++ second.effects⟩⟩

instance : Monad (Action σ) where
  pure := done
  bind := andThen

/-- Fails. -/
def fail (failure : Failure) : Action σ α := ⟨fun s => ⟨.error failure, s, []⟩⟩

/-- Fails if there is a refusal. -/
def ofCompiled (x : Except Refusal α) : Action σ α :=
  match x with
  | .ok a => done a
  | .error refusal => fail (.refused refusal)

/-- An action that never fails, and says how another one ended. -/
def attempt (x : Action σ α) : Action σ (Except Failure α) :=
  ⟨fun s =>
    let ending := x.run s
    ⟨.ok ending.result, ending.state, ending.effects⟩⟩

/-- A view of the state. -/
def view (f : σ → α) : Action σ α := ⟨fun s => ⟨.ok (f s), s, []⟩⟩

/-- Changes the state by other means than a statement. -/
def modify (f : σ → σ) : Action σ Unit := ⟨fun s => ⟨.ok (), f s, []⟩⟩

/-- Has one effect. -/
def emit (effect : Effect) : Action σ Unit := ⟨fun s => ⟨.ok (), s, [effect]⟩⟩

/-- Logs a record. -/
def log (record : LogRecord) : Action σ Unit := emit (.logged record)

/-- Adds two words.  If the sum is no word, this is an effect, and a program that does not check
its sums goes on with what fits in a word. -/
def add (a b : UInt64) : Action σ UInt64 :=
  match Checked.add a b with
  | some sum => done sum
  | none => do
      emit .overflowed
      done (a + b)

/-- Sends a statement and takes the answer. -/
def send (kind : CallKind) (run : Statement → σ → Except DriverFailure α × σ)
    (statement : Statement) : Action σ (Except DriverFailure α) :=
  ⟨fun s =>
    let (answer, s') := run statement s
    ⟨.ok answer, s', [.sent ⟨kind, statement⟩]⟩⟩

/-- Does an action for each member of a list, in order, and collects the results. -/
def collect (f : α → Action σ β) : List α → Action σ (List β)
  | [] => done []
  | a :: as => do
      let b ← f a
      let bs ← collect f as
      done (b :: bs)

/-- Does an action for each member of a list, in order. -/
def each (f : α → Action σ Unit) : List α → Action σ Unit
  | [] => done ()
  | a :: as => do
      f a
      each f as

end Action

end BoundSql
