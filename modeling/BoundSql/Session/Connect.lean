import BoundSql.Config.Server
import BoundSql.Driver.Sqlite
import BoundSql.Session

/-!
# Opening a session

A configuration is turned into a session.  The driver comes first, then the
options of a server, then the connection, and the ceiling on parameters last.

A database in a file is looked up on a *disk*.  A database in memory, or in a file
without a name, begins empty and belongs to the session alone.  There is no way to
reach a server from here, so with a server a session is never opened.
-/

namespace BoundSql

/-- Where databases in files are looked up. -/
structure Disk where
  /-- The database of a path, which is an empty one if there is no such file yet. -/
  find : String → Except Embedded.SqlFault Embedded.Database

namespace Config

/-- The database belongs to the session alone. -/
def isPrivate (c : Config) : Bool := c.database == memoryPath || c.database.isEmpty

/-- Opens the database in the file, or the one in memory. -/
def openDatabase (disk : Disk) (c : Config) : Except Failure Sqlite.Connection :=
  if c.isPrivate then .ok { database := {} }
  else
    match disk.find c.database with
    | .ok database => .ok { database }
    | .error fault => .error (.unreachable fault.failure)

/-- Why no server is reached. -/
def noServer : DriverFailure :=
  .caused "error communicating with database: Connection refused (os error 111)"

/-- Opens a connection. -/
def connection (disk : Disk) (c : Config) : Except Failure Sqlite.Connection :=
  match c.dialect with
  | .error refusal => .error (.refused refusal)
  | .ok .sqlite => c.openDatabase disk
  | .ok .mysql =>
      match c.serverOptions with
      | .error fault => .error (.misconfigured fault)
      | .ok _ => .error (.unreachable noServer)

end Config

/-- Opens a session that asks for a ceiling on parameters. -/
def Session.connect (disk : Disk) (c : Config) (requested : UInt64) :
    Action Sqlite.Connection (Session Sqlite.Connection) := do
  match c.connection disk with
  | .error failure => Action.fail failure
  | .ok opened =>
      Action.modify fun _ => opened
      Action.log (.connected c.driver c.host c.database)
      Session.make Sqlite.driver requested

end BoundSql
