import BoundSql.Config.Fault
import BoundSql.Config.Options
import BoundSql.Dialect

/-!
# Configurations

A configuration says where to connect and how.  What it does not say is taken
from the default, a local server.

The URL of a server has its parts in the usual places.  User, password and
database are read through their escapes, a query parameter is an option, except
for the character set.  The URL of a file is the word `sqlite`, a colon, two
slashes or none, and a path up to a question mark.
-/

namespace BoundSql

/-- Where to connect and how. -/
structure Config where
  driver : String := "mysql"
  host : String := "127.0.0.1"
  port : UInt16 := 3306
  /-- The database, or the path of the file. -/
  database : String := "defaultdb"
  user : String := "root"
  password : String := ""
  /-- The character set of the connection. -/
  charset : String := "utf8"
  /-- More options of the driver. -/
  options : Options := .empty
deriving Repr, DecidableEq, Inhabited

namespace Config

/-- The dialect of the driver. -/
def dialect (c : Config) : Except Refusal Dialect := Dialect.ofDriverName c.driver

/-! ## Files -/

/-- The path of a database in memory. -/
def memoryPath : String := ":memory:"

/-- The configuration for a file. -/
def ofPath (path : String) : Config := { driver := "sqlite", database := path }

/-- What a text is behind a given beginning. -/
def behind? (beginning : String) (cs : List Char) : Option (List Char) :=
  beginning.toList.isPrefixOf? cs

/-- The path in the URL of a file. -/
def filePath (cs : List Char) : String :=
  let path := (behind? "//" cs).getD cs
  if ["", memoryPath, "memory:"].contains (String.ofList path) then memoryPath
  else String.ofList (Text.cutAt '?' path).1

/-! ## Servers -/

/-- Reads a part of a URL through its escapes. -/
def readComponent (raw : String) : Except ConfigFault String :=
  match Text.ofBytes (Url.decode raw.toList) with
  | .ok s => .ok s
  | .error cause => .error (.invalidComponent raw cause)

/-- Sets a query parameter. -/
def withParameter (c : Config) (e : String × String) : Config :=
  if e.1 = "charset" then { c with charset := e.2 }
  else { c with options := c.options.set e.1 e.2 }

/-- The configuration for the server that a URL names. -/
def ofServerUrl (url : Url) : Except ConfigFault Config := do
  let standard : Config := {}
  let user ← if url.username.isEmpty then pure standard.user else readComponent url.username
  let password ← match url.password with
    | none => pure standard.password
    | some raw => readComponent raw
  let path := String.ofList (url.path.toList.dropWhile (· == '/'))
  let database ← if path.isEmpty then pure standard.database else readComponent path
  let config : Config :=
    { standard with
      user, password, database
      host := url.host.getD standard.host
      port := url.port.getD standard.port }
  pure ((Url.decodeForm ((url.query.getD "").toList)).foldl withParameter config)

/-! ## URLs -/

/-- Reads the URL of a server or a file. -/
def ofUrl (s : String) : Except ConfigFault Config :=
  let text := Text.trim s
  match behind? "sqlite:" text.toList with
  | some rest => .ok (ofPath (filePath rest))
  | none =>
      match Url.parse text with
      | .error cause => .error (.invalidUrl text cause)
      | .ok url =>
          if ["mysql", "mariadb"].contains url.scheme then ofServerUrl url
          else .error (.unsupportedUrl text)

/-! ## Tests -/

example : (ofUrl "mysql://app:p%40ss@db:3307/x?charset=utf8mb4&a=1").toOption
    = some { user := "app", password := "p@ss", host := "db", port := 3307, database := "x",
             charset := "utf8mb4", options := .ofList [("a", "1")] } := by decide +kernel
example : (ofUrl "sqlite://data/app.db?mode=rwc").toOption = some (ofPath "data/app.db") := by
  decide +kernel
example : (ofUrl "sqlite:").toOption = some (ofPath ":memory:") := by decide +kernel

end Config

end BoundSql
