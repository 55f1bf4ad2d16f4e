import BoundSql.Config

/-!
# Options of a MySQL server

Of a configuration for a server, every option must be one that the driver knows.
The options take effect in order of their keys, and the first one that is unknown
or has no meaning is at fault.  Some have two keys, of which the later one wins.
-/

namespace BoundSql

/-- Whether a connection is encrypted, and what is checked about the other side. -/
inductive SslMode where
  /-- It is not. -/
  | disabled
  /-- It is if the server can. -/
  | preferred
  /-- It is. -/
  | required
  /-- It is, and the authority of the server is checked. -/
  | verifyCa
  /-- It is, and the authority and the name of the server are checked. -/
  | verifyIdentity
deriving DecidableEq, Repr

/-- The mode that a word in any case names. -/
def SslMode.ofText? (text : String) : Option SslMode :=
  match Text.lower text with
  | "disabled" => some .disabled
  | "preferred" => some .preferred
  | "required" => some .required
  | "verify_ca" => some .verifyCa
  | "verify_identity" => some .verifyIdentity
  | _ => none

/-- The options of a connection to a server. -/
structure ServerOptions where
  host : String
  port : UInt16
  username : String
  /-- The password, if there is one. -/
  password : Option String
  database : String
  /-- The character set. -/
  charset : String
  collation : Option String := none
  /-- The path of a socket. -/
  socket : Option String := none
  /-- The mode of encryption. -/
  sslMode : SslMode := .preferred
  /-- The path of the certificate of the authority. -/
  sslCa : Option String := none
  /-- The path of the own certificate. -/
  sslCert : Option String := none
  /-- The path of the own key. -/
  sslKey : Option String := none
  /-- The time zone. -/
  timezone : String := "+00:00"
  /-- The number of statements that are kept prepared. -/
  statementCacheCapacity : UInt64 := 100
deriving DecidableEq, Repr

namespace ServerOptions

/-- Sets the option that a key names. -/
def set (o : ServerOptions) (key value : String) : Except ConfigFault ServerOptions :=
  match key with
  | "ssl-mode" | "sslmode" =>
      match SslMode.ofText? value with
      | some mode => .ok { o with sslMode := mode }
      | none => .error (.unknownMode key value)
  | "ssl-ca" | "sslca" => .ok { o with sslCa := some value }
  | "ssl-cert" => .ok { o with sslCert := some value }
  | "ssl-key" => .ok { o with sslKey := some value }
  | "collation" => .ok { o with collation := some value }
  | "socket" => .ok { o with socket := some value }
  | "timezone" | "time_zone" => .ok { o with timezone := value }
  | "statement-cache-capacity" =>
      match readUnsigned? value with
      | some capacity => .ok { o with statementCacheCapacity := capacity }
      | none => .error (.invalidCapacity key value)
  | _ => .error (.unknownOption key)

end ServerOptions

/-- The options of a connection to the server. -/
def Config.serverOptions (c : Config) : Except ConfigFault ServerOptions :=
  c.options.entries.foldlM (fun o e => o.set e.1 e.2)
    { host := c.host, port := c.port, username := c.user, database := c.database
      charset := c.charset
      password := if c.password.isEmpty then none else some c.password }

/-! ## Tests -/

/-- The options of a server whose configuration has the given entries. -/
def serverOptionsWith (pairs : List (String × String)) : Option ServerOptions :=
  ({ options := .ofList pairs } : Config).serverOptions.toOption

example : (serverOptionsWith [("ssl-mode", "REQUIRED"), ("ssl-ca", "a")]).map (·.sslMode)
    = some .required := by decide +kernel
example : serverOptionsWith [("compress", "1")] = none := by decide +kernel

end BoundSql
