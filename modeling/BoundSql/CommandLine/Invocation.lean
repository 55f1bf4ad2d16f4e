import BoundSql.CommandLine.Grammar
import BoundSql.Model
import BoundSql.Number.Integer

/-!
# Invocations

What the program is asked to do: print the definition of a table, create the
table, load rows into a table, or select rows from one.  The options for the
database stand in front of the command.
-/

namespace BoundSql.CommandLine

/-! ## Commands -/

/-- What rows are loaded into, and how. -/
structure LoadRequest where
  table : String
  /-- The file of the rows. -/
  input : String
  /-- Rows that are already there are left out. -/
  ignore : Bool := false
  /-- The columns that a row that is already there takes from the new one. -/
  update : List String := []
  /-- The columns to which it adds those of the new one. -/
  increment : List String := []
  /-- The column of the primary key. -/
  primaryKey : String := "id"
deriving DecidableEq, Repr

/-- What rows are selected. -/
structure SelectRequest where
  table : String
  /-- The columns, or none for all. -/
  columns : List String := []
  /-- Conditions of the form `column=value`. -/
  filters : List String := []
  order : List String := []
  /-- The largest number of rows. -/
  limit : Option UInt64 := none
deriving DecidableEq, Repr

/-- A command. -/
inductive Command where
  /-- Prints the definition of a table. -/
  | ddl (schema : String) (dialect : Option Dialect)
  | create (schema : String)
  | load (request : LoadRequest)
  | select (request : SelectRequest)
deriving DecidableEq, Repr

/-- What the program is asked to do. -/
structure Invocation where
  /-- The URL of the database. -/
  database : String
  /-- The file of the configuration, which comes before the URL. -/
  config : Option String
  /-- The ceiling on parameters. -/
  maxParams : UInt64
  /-- Everything is logged. -/
  verbose : Bool
  command : Command
deriving DecidableEq, Repr

/-! ## Grammars -/

/-- The database that is used by default. -/
def defaultDatabase : String := "sqlite:sqlbatch.db"

/-- A text is not empty. -/
def nonEmpty (s : String) : Bool := !s.isEmpty

/-- The option for help. -/
def helpOption : OptionSpec := { name := "help", letter := 'h', kind := .help }

/-- What stands in front of the command. -/
def programGrammar : Grammar where
  options := [
    { name := "database", letter := 'd' },
    { name := "config", letter := 'c', accepts := nonEmpty },
    { name := "max-params", accepts := fun v => (readUnsigned? v).isSome },
    { name := "verbose", letter := 'v', kind := .flag },
    helpOption,
    { name := "version", letter := 'V', kind := .version }]
  commands := ["ddl", "create", "load", "select", "help"]

/-- The option for a table. -/
def tableOption : OptionSpec := { name := "table", letter := 't' }

/-- The place of a schema file. -/
def schemaPlace : PlaceSpec := { name := "SCHEMA", accepts := nonEmpty }

/-- The grammar for printing a definition. -/
def ddlGrammar : Grammar where
  options := [{ name := "dialect", accepts := fun v => (Dialect.ofDriverName v).toOption.isSome },
    helpOption]
  places := [schemaPlace]

/-- The grammar for creating a table. -/
def createGrammar : Grammar where
  options := [helpOption]
  places := [schemaPlace]

/-- The grammar for loading rows. -/
def loadGrammar : Grammar where
  options := [tableOption, { name := "ignore", kind := .flag }, { name := "update", kind := .values },
    { name := "increment", kind := .values }, { name := "primary-key" }, helpOption]
  places := [{ name := "INPUT", accepts := nonEmpty }]

/-- The grammar for selecting rows. -/
def selectGrammar : Grammar where
  options := [tableOption, { name := "columns", kind := .values }, { name := "where", kind := .values },
    { name := "order-by", kind := .values },
    { name := "limit", accepts := fun v => (readUnsigned? v).isSome }, helpOption]

/-! ## Reading commands -/

/-- What there has to be. -/
def required (name : String) (value : Option String) : Except Stop String :=
  match value with
  | some v => .ok v
  | none => .error (.fault (.missing name))

/-- The pieces of texts between commas. -/
def atCommas (texts : List String) : List String :=
  texts.flatMap fun s => (Text.splitWhere (· == ',') s.toList).map String.ofList

/-- Reads the command for printing a definition. -/
def readDdl (arguments : List String) : Except Stop Command := do
  let r ← read ddlGrammar arguments
  let schema ← required "SCHEMA" r.places.head?
  let dialect := (r.value? "dialect").bind fun v => (Dialect.ofDriverName v).toOption
  .ok (.ddl schema dialect)

/-- Reads the command for creating a table. -/
def readCreate (arguments : List String) : Except Stop Command := do
  let r ← read createGrammar arguments
  let schema ← required "SCHEMA" r.places.head?
  .ok (.create schema)

/-- Reads the command for loading rows. -/
def readLoad (arguments : List String) : Except Stop Command := do
  let r ← read loadGrammar arguments
  match if r.has "ignore" then ["update", "increment"].find? r.has else none with
  | some other => .error (.fault (.conflicting "ignore" other))
  | none =>
      let table ← required "--table" (r.value? "table")
      let input ← required "INPUT" r.places.head?
      .ok (.load { table, input, ignore := r.has "ignore", update := r.values "update"
                   increment := r.values "increment"
                   primaryKey := (r.value? "primary-key").getD "id" })

/-- Reads the command for selecting rows. -/
def readSelect (arguments : List String) : Except Stop Command := do
  let r ← read selectGrammar arguments
  let table ← required "--table" (r.value? "table")
  .ok (.select { table, columns := atCommas (r.values "columns"), filters := r.values "where"
                 order := r.values "order-by", limit := (r.value? "limit").bind readUnsigned? })

/-- Reads what help is asked for. -/
def readHelp : List String → Stop
  | [] => .help
  | [name] => if programGrammar.commands.contains name then .help else .fault (.unexpected name)
  | _ :: other :: _ => .fault (.unexpected other)

/-- Reads the arguments of a command. -/
def readCommand (name : String) (arguments : List String) : Except Stop Command :=
  match name with
  | "ddl" => readDdl arguments
  | "create" => readCreate arguments
  | "load" => readLoad arguments
  | "select" => readSelect arguments
  | _ => .error (readHelp arguments)

/-- Reads a command line.  The environment may name a database. -/
def Invocation.ofArguments (databaseUrl : Option String) (arguments : List String) :
    Except Stop Invocation := do
  let r ← read programGrammar arguments
  match r.command with
  | none => .error (.fault (.missing "COMMAND"))
  | some (name, rest) =>
      let command ← readCommand name rest
      .ok { database := (r.value? "database").getD (databaseUrl.getD defaultDatabase)
            config := r.value? "config"
            maxParams := ((r.value? "max-params").bind readUnsigned?).getD defaultMaxParams
            verbose := r.has "verbose"
            command }

/-! ## Tests -/

/-- The command of a sample command line. -/
def sampleCommand? (arguments : List String) : Option Command :=
  ((Invocation.ofArguments none arguments).map (·.command)).toOption

example : sampleCommand? ["load", "-tt", "rows.json", "--increment", "n", "--update=a", "--update", "b"]
    = some (.load { table := "t", input := "rows.json", update := ["a", "b"], increment := ["n"] }) := by
  decide +kernel
example : sampleCommand? ["select", "-t", "t", "--columns", "a,,b"]
    = some (.select { table := "t", columns := ["a", "", "b"] }) := by decide +kernel
example : sampleCommand? ["load", "-t", "t", "f", "--ignore", "--update", "a"] = none := by decide +kernel

end BoundSql.CommandLine
