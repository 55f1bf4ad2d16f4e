import BoundSql.Json.Fault
import BoundSql.Text.Utf8
import BoundSql.Url

/-!
# Faults of a configuration

What is wrong with a configuration, before any connection is opened or any
statement sent.
-/

namespace BoundSql

/-- What is wrong with a configuration. -/
inductive ConfigFault where
  /-- The text is no URL. -/
  | invalidUrl (url : String) (cause : UrlFault)
  /-- The scheme of the URL is none of a database. -/
  | unsupportedUrl (url : String)
  /-- A part of the URL is no text once its escapes are read. -/
  | invalidComponent (raw : String) (cause : Text.ByteFault)
  /-- The JSON text is at fault. -/
  | invalidDocument (cause : Json.Fault)
  /-- The file cannot be read. -/
  | unreadableFile (path cause : String)
  /-- The option does not name a mode of encryption. -/
  | unknownMode (key value : String)
  /-- The option does not spell a capacity. -/
  | invalidCapacity (key value : String)
  /-- The server has no such option. -/
  | unknownOption (key : String)
  /-- No parameter could ever be bound. -/
  | zeroCeiling
  /-- There is no session that could create the table. -/
  | noSession (table : String)
  /-- Anything else that the caller reports. -/
  | custom (text : String)
deriving Repr

/-- The text for the user.  For a JSON text that is malformed or truncated it only
says so. -/
def ConfigFault.message : ConfigFault → String
  | invalidUrl url cause => "invalid connection url '" ++ url ++ "': " ++ cause.message
  | unsupportedUrl url => "unsupported connection url '" ++ url ++ "'"
  | invalidComponent raw cause => "invalid url component '" ++ raw ++ "': " ++ cause.message
  | invalidDocument (.mismatch cause) => cause.message
  | invalidDocument .malformed => "malformed JSON"
  | invalidDocument .truncated => "truncated JSON"
  | unreadableFile path cause => path ++ ": " ++ cause
  | unknownMode key value =>
      "invalid " ++ key ++ " '" ++ value ++ "': error with configuration: unknown value "
        ++ Text.quoted value ++ " for \x60ssl_mode\x60"
  | invalidCapacity key value => "invalid " ++ key ++ " '" ++ value ++ "'"
  | unknownOption key => "unsupported mysql option '" ++ key ++ "'"
  | zeroCeiling => "max_params must be greater than zero"
  | noSession table => "no session to create table '" ++ table ++ "' with"
  | custom text => text

end BoundSql
