import BoundSql.CommandLine.Program
import BoundSql.Embedded.Dump

/-!
# The command line program

Reads what `CommandLine.run` needs to know about, runs it, and writes what it says.
A database is kept in a file as a dump.
-/

namespace BoundSql.CommandLine

/-- The words for an error of the system. -/
def systemMessage : IO.Error → String
  | .noFileOrDirectory .. => "No such file or directory (os error 2)"
  | .permissionDenied .. => "Permission denied (os error 13)"
  | e => toString e

/-- Reads a file. -/
def readFile (file : String) : IO (Except String String) := do
  try
    let text ← IO.FS.readFile file
    pure (.ok text)
  catch e => pure (.error (systemMessage e))

/-- The files that an invocation reads. -/
def Invocation.files (i : Invocation) : List String :=
  i.config.toList ++ match i.command with
    | .ddl file _ => [file]
    | .create file => [file]
    | .load r => [r.input]
    | .select _ => []

/-- The database in a file, which is made if it is not there. -/
def readDatabase (path : String) : IO (Except Embedded.SqlFault Embedded.Database) := do
  match ← readFile path with
  | .ok text => pure (Embedded.Database.ofDump text)
  | .error _ =>
      try
        IO.FS.writeFile path ""
        pure (.ok {})
      catch _ => pure (.error .cannotOpen)

/-- What is around the program, as far as an invocation needs to know. -/
def surroundings (databaseUrl : Option String) (i : Invocation) : IO Surroundings := do
  let files ← i.files.mapM fun file => do pure (file, ← readFile file)
  let found (file : String) : Except String String :=
    (files.lookup file).getD (.error "No such file or directory (os error 2)")
  let s : Surroundings := { textOf := found, disk := ⟨fun _ => .ok {}⟩, databaseUrl }
  match i.command, i.configuration s with
  | .ddl _ _, _ => pure s
  | _, .error _ => pure s
  | _, .ok c =>
      if c.isPrivate || c.dialect.toOption != some .sqlite then pure s
      else
        let database ← readDatabase c.database
        pure { s with disk := ⟨fun _ => database⟩ }

/-- Prints what the program prints, and writes what it writes. -/
def finish (exit : Exit) : IO UInt32 := do
  let err ← IO.getStderr
  for line in exit.log do
    err.putStrLn line
  IO.print exit.output
  match exit with
  | .stopped (.fault f) => err.putStrLn ("error: " ++ f.message)
  | _ => pure ()
  match exit.report with
  | [] => pure ()
  | [line] => err.putStrLn line
  | line :: causes =>
      err.putStrLn (line ++ "\n\nCaused by:\n    " ++ String.intercalate "\n    " causes)
  match exit.database with
  | some (path, database) => IO.FS.writeFile path database.dump
  | none => pure ()
  pure (UInt32.ofNat exit.code)

end BoundSql.CommandLine

/-- Runs the program with the arguments that it is given. -/
def main (arguments : List String) : IO UInt32 := do
  let databaseUrl ← IO.getEnv "DATABASE_URL"
  match BoundSql.CommandLine.Invocation.ofArguments databaseUrl arguments with
  | .error stop => BoundSql.CommandLine.finish (.stopped stop)
  | .ok invocation => do
      let s ← BoundSql.CommandLine.surroundings databaseUrl invocation
      BoundSql.CommandLine.finish (BoundSql.CommandLine.run s arguments)
