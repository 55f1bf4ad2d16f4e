import BoundSql.Config
import BoundSql.Json.Record

/-!
# Configurations in JSON

A configuration is read as a record in which every field may be missing, and the
user may go by another name.  It is written with all of its fields in order, so
what is written is read back as it was.
-/

namespace BoundSql

open Json (Reader RecordField RecordShape)

/-! ## Reading -/

/-- What has been read of a configuration. -/
structure ConfigDraft where
  driver : Option String := none
  host : Option String := none
  port : Option UInt16 := none
  database : Option String := none
  user : Option String := none
  password : Option String := none
  /-- The character set. -/
  charset : Option String := none
  options : Option Options := none
deriving Repr, DecidableEq, Inhabited

namespace ConfigDraft

/-- A map of texts.  A key that is there twice keeps its last text. -/
def readOptions (budget : Nat) : Reader Options :=
  Json.readObject budget "a map"
    (fun options key => do
      Json.colon
      pure (options.set key (← Json.readString)))
    Options.empty

/-- The fields of a configuration. -/
def fields : List (RecordField ConfigDraft) :=
  [{ name := "driver", isSet := (·.driver.isSome),
     read := fun _ c => do pure { c with driver := some (← Json.readString) } },
   { name := "host", isSet := (·.host.isSome),
     read := fun _ c => do pure { c with host := some (← Json.readString) } },
   { name := "port", isSet := (·.port.isSome),
     read := fun _ c => do pure { c with port := some (← Json.readPort) } },
   { name := "database", isSet := (·.database.isSome),
     read := fun _ c => do pure { c with database := some (← Json.readString) } },
   { name := "user", otherName := some "username", isSet := (·.user.isSome),
     read := fun _ c => do pure { c with user := some (← Json.readString) } },
   { name := "password", isSet := (·.password.isSome),
     read := fun _ c => do pure { c with password := some (← Json.readString) } },
   { name := "charset", isSet := (·.charset.isSome),
     read := fun _ c => do pure { c with charset := some (← Json.readString) } },
   { name := "options", isSet := (·.options.isSome),
     read := fun budget c => do pure { c with options := some (← readOptions budget) } }]

/-- The configuration of a draft. -/
def complete (c : ConfigDraft) : Config :=
  let standard : Config := {}
  { driver := c.driver.getD standard.driver
    host := c.host.getD standard.host
    port := c.port.getD standard.port
    database := c.database.getD standard.database
    user := c.user.getD standard.user
    password := c.password.getD standard.password
    charset := c.charset.getD standard.charset
    options := c.options.getD standard.options }

end ConfigDraft

namespace Config

/-- Configurations as records. -/
def shape : RecordShape ConfigDraft Config :=
  { expected := "struct ConnectionConfig", fields := ConfigDraft.fields, start := {},
    complete := fun _ c => .ok c.complete }

/-- Reads a whole text as a configuration. -/
def ofJson (s : String) : Except ConfigFault Config :=
  (Json.readText shape.read s).mapError .invalidDocument

/-! ## Writing -/

/-- The JSON document of a configuration. -/
def toJson (c : Config) : Json :=
  .object
    [("driver", .string c.driver), ("host", .string c.host), ("port", .integer c.port.toNat),
     ("database", .string c.database), ("user", .string c.user), ("password", .string c.password),
     ("charset", .string c.charset),
     ("options", .object (c.options.entries.map fun e => (e.1, .string e.2)))]

/-! ## Tests -/

example : (ofJson "\x7b\"username\": \"svc\", \"x\": [1], \"port\": 7\x7d").toOption
    = some { user := "svc", port := 7 } := by decide +kernel
example : (ofJson ({ port := 7, options := .ofList [("a\"", "1")] } : Config).toJson.compact).toOption
    = some { port := 7, options := .ofList [("a\"", "1")] } := by decide +kernel

end Config

end BoundSql
