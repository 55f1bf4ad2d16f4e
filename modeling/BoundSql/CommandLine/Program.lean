import BoundSql.CommandLine.Invocation
import BoundSql.Config.Document
import BoundSql.Schema.Creation
import BoundSql.Schema.Reading
import BoundSql.Session.Connect

/-!
# The program

`Program.run` is what the program does with a command line.  It takes the files
and databases around it as they are, and says what is printed and what becomes of
the database.

The configuration is read first, then the file of the command, then its
conditions, and the session is opened last.
-/

namespace BoundSql.CommandLine

/-- What is around the program. -/
structure Surroundings where
  /-- The text of a file, or why there is none. -/
  textOf : String → Except String String
  /-- The databases. -/
  disk : Disk
  /-- The database that the environment names. -/
  databaseUrl : Option String := none

/-! ## Failures -/

/-- Why the program fails. -/
inductive ProgramFailure where
  /-- Something else fails. -/
  | failed (failure : Failure)
  /-- No session is opened. -/
  | unconnected (driver : String) (cause : Failure)
  /-- A file cannot be read. -/
  | unreadable (content file cause : String)
  /-- The text of a file is at fault. -/
  | unparsable (content file : String) (fault : Json.Fault)
  /-- A condition is not of the form `column=value`. -/
  | notAFilter (text : String)
deriving Repr

namespace ProgramFailure

/-- The text for the user. -/
def message : ProgramFailure → String
  | failed failure => failure.message
  | unconnected driver _ => "connecting to " ++ driver ++ " database"
  | unreadable content file _ => "reading " ++ content ++ " from " ++ file
  | unparsable content file _ => "parsing " ++ content ++ " from " ++ file
  | notAFilter text => "filter '" ++ text ++ "' is not COLUMN=VALUE"

/-- The text of what lies behind. -/
def cause? : ProgramFailure → Option String
  | unconnected _ cause => some cause.message
  | unreadable _ _ cause => some cause
  | _ => none

/-- The lines for the user. -/
def report (f : ProgramFailure) : List String := ("Error: " ++ f.message) :: f.cause?.toList

end ProgramFailure

/-! ## Inputs -/

/-- The configuration. -/
def Invocation.configuration (i : Invocation) (s : Surroundings) : Except ProgramFailure Config :=
  let found : Except ConfigFault Config := match i.config with
    | none => Config.ofUrl i.database
    | some file =>
        match s.textOf file with
        | .error cause => .error (.unreadableFile file cause)
        | .ok text => Config.ofJson text
  found.mapError fun fault => .failed (.misconfigured fault)

/-- Reads the content of a file. -/
def readContent {α : Type} (s : Surroundings) (content : String)
    (parse : String → Except Json.Fault α) (file : String) : Except ProgramFailure α :=
  match s.textOf file with
  | .error cause => .error (.unreadable content file cause)
  | .ok text => (parse text).mapError (.unparsable content file)

/-- Reads the definition of a table. -/
def readSchema (s : Surroundings) (file : String) : Except ProgramFailure TableSchema :=
  readContent s "schema" TableSchema.ofJson file

/-- Reads rows. -/
def readRows (s : Surroundings) (file : String) : Except ProgramFailure (List Row) :=
  readContent s "rows" Row.listOfJson file

/-- A column and the value that it is to have.  What is no JSON is a text. -/
def readFilter (text : String) : Except ProgramFailure (String × Value) :=
  match Text.cutAt '=' text.toList with
  | (_, none) => .error (.notAFilter text)
  | (column, some raw) =>
      let raw := String.ofList raw
      .ok (Text.trim (String.ofList column), ((Value.ofJson raw).toOption).getD (.text raw))

/-- The query of a request. -/
def SelectRequest.query (r : SelectRequest) : Except ProgramFailure Select := do
  let filters ← r.filters.mapM readFilter
  let start := Select.ofTable r.table
  let chosen := if r.columns.isEmpty then start else start.withColumns r.columns
  let filtered := filters.foldl (fun q (column, value) =>
    q.filtering fun f => f.whereEq column value) chosen
  let ordered := r.order.foldl Select.orderBy filtered
  .ok (match r.limit with
    | some n => ordered.take n
    | none => ordered)

/-! ## Work -/

/-- What the program has done. -/
structure Outcome where
  /-- What it prints, or why it fails. -/
  result : Except ProgramFailure String
  /-- What it logs. -/
  records : List LogRecord := []
  /-- The path of a database, and what is in it now. -/
  database : Option (String × Embedded.Database) := none

/-- The outcome of a fault before anything is done. -/
def Outcome.ofFailure (failure : ProgramFailure) : Outcome := { result := .error failure }

/-- The type of the sessions of the program. -/
abbrev ProgramSession := Session Sqlite.Connection

/-- Something to do in a session, which ends with what is printed. -/
abbrev Work := ProgramSession → Action Sqlite.Connection String

/-- Opens a session and works in it. -/
def work (disk : Disk) (c : Config) (maxParams : UInt64) (body : Work) : Outcome :=
  let opening := (Session.connect disk c maxParams).run { database := {} }
  match opening.result with
  | .error failure => { result := .error (.unconnected c.driver failure), records := opening.records }
  | .ok session =>
      let ending := (body session).run opening.state
      { result := ending.result.mapError .failed
        records := opening.records ++ ending.records
        database := if c.isPrivate then none else some (c.database, ending.state.database) }

/-- Creates a table. -/
def create (schema : TableSchema) : Work := fun session => do
  (TableCreation.mk (some session) schema).execute
  pure ""

/-- Loads rows. -/
def load (r : LoadRequest) (rows : List Row) : Work := fun session => do
  let model : Model := { table := r.table, primaryKey := r.primaryKey }
  let affected ←
    if r.update.isEmpty && r.increment.isEmpty then model.insertBatch session rows r.ignore
    else
      let policy := (({} : UpsertPolicy).update r.update).increment r.increment
      model.insertUpdateBatch session rows policy
  Action.log (.loaded r.table rows.length affected)
  pure ""

/-- Selects rows. -/
def select (q : Select) : Work := fun session => do
  let found ← session.query q
  pure ((Json.array (found.rows.map Row.toJson)).pretty ++ "\n")

/-- The dialect for which a definition is printed. -/
def ddlDialect (c : Config) (asked : Option Dialect) : Except ProgramFailure Dialect :=
  match asked with
  | some d => .ok d
  | none => c.dialect.mapError fun refusal => .failed (.refused refusal)

/-- The definition of a table, as it is printed. -/
def ddl (c : Config) (schema : TableSchema) (asked : Option Dialect) : Outcome :=
  { result := (ddlDialect c asked).map fun d => schema.compile d ++ ";\n" }

/-- What is done once an input was read. -/
def withInput {α : Type} (input : Except ProgramFailure α) (next : α → Outcome) : Outcome :=
  match input with
  | .error failure => .ofFailure failure
  | .ok a => next a

/-- Does what the program is asked to do. -/
def Invocation.perform (i : Invocation) (s : Surroundings) : Outcome :=
  withInput (i.configuration s) fun c =>
    match i.command with
    | .ddl file dialect => withInput (readSchema s file) fun schema => ddl c schema dialect
    | .create file => withInput (readSchema s file) fun schema =>
        work s.disk c i.maxParams (create schema)
    | .load r => withInput (readRows s r.input) fun rows =>
        work s.disk c i.maxParams (load r rows)
    | .select r => withInput r.query fun q => work s.disk c i.maxParams (select q)

/-! ## The end of the program -/

/-- How the program ends. -/
inductive Exit where
  /-- Nothing was to be done. -/
  | stopped (stop : Stop)
  /-- Something was done. -/
  | performed (invocation : Invocation) (outcome : Outcome)

namespace Exit

/-- The name and the version of the program. -/
def versionText : String := "sqlbatch 0.1.0\n"

/-- How the program is used. -/
def helpText : String := String.intercalate "\n" [
  "Batched inserts and upserts for MySQL and SQLite",
  "",
  "Usage: sqlbatch [OPTIONS] <COMMAND>",
  "",
  "Commands:",
  "  ddl <SCHEMA> [--dialect <DIALECT>]    Print the CREATE TABLE statement for a JSON schema",
  "  create <SCHEMA>                       Create a table from a JSON schema",
  "  load --table <TABLE> <INPUT>          Insert rows from a JSON array of objects",
  "       [--ignore] [--update <COLUMN>] [--increment <COLUMN>] [--primary-key <COLUMN>]",
  "  select --table <TABLE>                Print matching rows as JSON",
  "       [--columns <COLUMNS>] [--where <COLUMN=VALUE>] [--order-by <TERM>] [--limit <N>]",
  "",
  "Options:",
  "  -d, --database <URL>    Database URL [default: sqlite:sqlbatch.db]",
  "  -c, --config <FILE>     JSON connection config; takes precedence over --database",
  "      --max-params <N>    Ceiling on bound parameters per batch statement [default: 60000]",
  "  -v, --verbose           Enable verbose output",
  "  -h, --help              Print help",
  "  -V, --version           Print version",
  ""]

/-- The exit code: two for a command line at fault, one for any other failure. -/
def code : Exit → Nat
  | stopped (.fault _) => 2
  | stopped _ => 0
  | performed _ outcome => if outcome.result.toOption.isSome then 0 else 1

/-- What is printed. -/
def output : Exit → String
  | stopped .help => helpText
  | stopped .version => versionText
  | stopped (.fault _) => ""
  | performed _ outcome => outcome.result.toOption.getD ""

/-- The lines about a failure. -/
def report : Exit → List String
  | performed _ { result := .error failure, .. } => failure.report
  | _ => []

/-- The path of a database, and what is in it now. -/
def database : Exit → Option (String × Embedded.Database)
  | performed _ outcome => outcome.database
  | stopped _ => none

/-- The lines of the log. -/
def log : Exit → List String
  | performed invocation outcome =>
      (outcome.records.filter fun r => invocation.verbose || r.level != .debug).map LogRecord.line
  | stopped _ => []

end Exit

/-- Runs the program. -/
def run (s : Surroundings) (arguments : List String) : Exit :=
  match Invocation.ofArguments s.databaseUrl arguments with
  | .error stop => .stopped stop
  | .ok invocation => .performed invocation (invocation.perform s)

/-! ## Tests -/

/-- The column and the value of a condition. -/
def sampleFilter? (text : String) : Option (String × String) :=
  ((readFilter text).map fun (column, value) => (column, value.inline)).toOption

example : sampleFilter? "height=10" = some ("height", "10")
    ∧ sampleFilter? " foo =a=b" = some ("foo", "'a=b'") ∧ sampleFilter? "foo" = none := by
  decide +kernel

end BoundSql.CommandLine
