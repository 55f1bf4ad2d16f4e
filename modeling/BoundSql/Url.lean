import BoundSql.Number.Integer
import BoundSql.Text.Blank
import BoundSql.Url.Form
import BoundSql.Url.Ipv6

/-!
# URLs

A URL is a scheme and a colon, then an authority behind two slashes or none, then
a path, a query behind `?`, and a fragment behind `#`.  The authority is a user
name and a password behind a colon, ended by the last `@`, then a host and a port
behind a colon.  What is read keeps the escapes of the text and adds those that
its part requires.

Controls and spaces around a text do not count, nor do tabs and line breaks
anywhere.  A path that begins with a slash is resolved: a segment of one dot goes
away, and one of two dots takes the segment in front of it along, unless that
names a drive.

The schemes of the web are *special*: a backslash is a slash to them, there may
be any number of slashes in front of the authority, and the host is required.
Their hosts are not looked at.
-/

namespace BoundSql

/-- The parts of a URL. -/
structure Url where
  /-- The scheme in lower case. -/
  scheme : String
  /-- The user name, with escapes. -/
  username : String := ""
  /-- The password, with escapes. -/
  password : Option String := none
  host : Option String := none
  port : Option UInt16 := none
  /-- The path, with escapes. -/
  path : String := ""
  /-- The query, with escapes. -/
  query : Option String := none
deriving DecidableEq, Repr, Inhabited

/-- Why a text is no URL. -/
inductive UrlFault where
  | noScheme
  /-- There is no host where one is required. -/
  | emptyHost
  /-- A host holds a character that no host may hold. -/
  | invalidHost
  /-- A host in brackets is no address. -/
  | invalidAddress
  /-- A port is no number of sixteen bits. -/
  | invalidPort
deriving DecidableEq, Repr

/-- The text for the user. -/
def UrlFault.message : UrlFault → String
  | noScheme => "relative URL without a base"
  | emptyHost => "empty host"
  | invalidHost => "invalid domain character"
  | invalidAddress => "invalid IPv6 address"
  | invalidPort => "invalid port number"

namespace Url

/-! ## The text as a whole -/

/-- A character that does not count at the ends of a text. -/
def isMargin (c : Char) : Bool := decide (c.toNat ≤ 0x20)

/-- A character that does not count anywhere. -/
def isDropped (c : Char) : Bool := c == '\t' || c == '\n' || c == '\r'

/-- The characters of a text that count. -/
def significant (s : String) : List Char :=
  ((((s.toList.dropWhile isMargin).reverse).dropWhile isMargin).reverse).filter (!isDropped ·)

/-- The schemes of the web, except for the one of local files. -/
def isSpecial (scheme : String) : Bool := ["http", "https", "ws", "wss", "ftp"].contains scheme

/-- A character of a scheme behind the first. -/
def isSchemeChar (c : Char) : Bool := c.isAlphanum || ['+', '-', '.'].contains c

/-- The scheme, and what stands behind its colon. -/
def takeScheme? (cs : List Char) : Option (String × List Char) :=
  match cs.span isSchemeChar with
  | (c :: name, ':' :: rest) =>
      if c.isAlpha then some (Text.lower (String.ofList (c :: name)), rest) else none
  | _ => none

/-! ## The path -/

/-- A segment for the place where it stands. -/
def isHere (segment : List Char) : Bool := [".", "%2e"].contains (Text.lower (String.ofList segment))

/-- A segment for the place above. -/
def isAbove (segment : List Char) : Bool :=
  ["..", ".%2e", "%2e.", "%2e%2e"].contains (Text.lower (String.ofList segment))

/-- A segment that names a drive by a letter. -/
def isDrive : List Char → Bool
  | letter :: mark :: rest =>
      letter.isAlpha && (mark == ':' || mark == '|') && (rest.isEmpty || rest.head? == some '\\')
  | _ => false

/-- Drops the last segment, unless it names a drive.  The last one comes first. -/
def ascend : List (List Char) → List (List Char)
  | [] => []
  | segment :: rest => if isDrive segment then segment :: rest else rest

/-- Resolves the segments of a path behind those in front of them, of which the
last one comes first. -/
def resolveFrom : List (List Char) → List (List Char) → List (List Char)
  | before, [] => before.reverse
  | before, [segment] =>
      if isAbove segment then ([] :: ascend before).reverse
      else if isHere segment then ([] :: before).reverse
      else (segment :: before).reverse
  | before, segment :: rest =>
      if isAbove segment then resolveFrom (ascend before) rest
      else if isHere segment then resolveFrom before rest
      else resolveFrom (segment :: before) rest

/-- The path that begins with a slash and goes on like this. -/
def resolvedPath (special : Bool) (cs : List Char) : String :=
  let segments := (Text.splitWhere (fun c => c == '/' || (special && c == '\\')) cs).map
    (encode isPathEscaped)
  String.ofList ((resolveFrom [] segments).flatMap ('/' :: ·))

/-- The path behind an authority. -/
def pathBehindHost (special : Bool) : List Char → String
  | [] => if special then "/" else ""
  | c :: rest =>
      if c = '/' || (special && c == '\\') then resolvedPath special rest
      else resolvedPath special (c :: rest)

/-- Completes a URL by what stands behind the authority. -/
def withRest (url : Url) (path : List Char → String) (cs : List Char) : Url :=
  let (before, _) := Text.cutAt '#' cs
  let (front, query) := Text.cutAt '?' before
  { url with path := path front, query := query.map String.ofList }

/-! ## The authority -/

/-- A character that ends an authority. -/
def endsAuthority (special : Bool) (c : Char) : Bool :=
  c == '/' || c == '?' || c == '#' || (special && c == '\\')

/-- A character that no host may hold. -/
def isForbiddenInHost (c : Char) : Bool :=
  ['\x00', '\t', '\n', '\r', ' ', '#', '/', ':', '<', '>', '?', '@', '[', '\\', ']', '^', '|'].contains c

/-- The host up to a colon that is not in brackets, and the rest.  The flag says
whether a bracket is open. -/
def cutHost : Bool → List Char → List Char × List Char
  | _, [] => ([], [])
  | inBrackets, c :: cs =>
      if c = ':' && !inBrackets then ([], c :: cs)
      else
        let (host, rest) := cutHost (c == '[' || (inBrackets && c != ']')) cs
        (c :: host, rest)

/-- Reads a host. -/
def readHost (special : Bool) (cs : List Char) : Except UrlFault String :=
  match cs with
  | '[' :: inner =>
      if inner.getLast? = some ']' then
        match readIpv6? inner.dropLast with
        | some groups => .ok ("[" ++ ipv6Text groups ++ "]")
        | none => .error .invalidAddress
      else .error .invalidAddress
  | _ =>
      if special then .ok (String.ofList cs)
      else if cs.any isForbiddenInHost then .error .invalidHost
      else .ok (String.ofList (encode isControl cs))

/-- Reads the digits of a port, and returns what stands behind them.  That is
nothing, or a backslash that belongs to the path. -/
def readPort (cs : List Char) : Except UrlFault (Option UInt16 × List Char) :=
  let (digits, rest) := cs.span isDigit
  let port := digitsValue digits
  if port > 65535 then .error .invalidPort
  else if rest.isEmpty || rest.head? == some '\\' then
    .ok (if digits.isEmpty then none else some (UInt16.ofNat port), rest)
  else .error .invalidPort

/-- Reads what stands behind the slashes in front of an authority. -/
def readAuthority (special : Bool) (url : Url) (cs : List Char) : Except UrlFault Url := do
  let (authority, rest) := cs.span (!endsAuthority special ·)
  let (user, place) := Text.cutAtLast '@' authority
  if user == some [] && place.isEmpty && !rest.isEmpty then throw .emptyHost
  let (name, password) := Text.cutAt ':' (user.getD [])
  let username := String.ofList (encode isUserEscaped name)
  let password := (password.filter (!·.isEmpty)).map fun cs => String.ofList (encode isUserEscaped cs)
  let (hostText, behind) := cutHost false place
  let host ← readHost special hostText
  if host.isEmpty && (special || !behind.isEmpty) then throw .emptyHost
  let (port, rest') ← readPort (behind.drop 1)
  if host.isEmpty && (!username.isEmpty || password.isSome) then throw .emptyHost
  pure ({ url with username, password, host := if host.isEmpty then none else some host, port }.withRest
    (pathBehindHost special) (rest' ++ rest))

/-! ## Reading -/

/-- Reads a URL. -/
def parse (s : String) : Except UrlFault Url :=
  match takeScheme? (significant s) with
  | none => .error .noScheme
  | some (scheme, rest) =>
      let url : Url := { scheme }
      if isSpecial scheme then readAuthority true url (rest.dropWhile fun c => c == '/' || c == '\\')
      else if scheme == "file" then .ok (url.withRest String.ofList rest)
      else match rest with
        | '/' :: '/' :: cs => readAuthority false url cs
        | '/' :: cs => .ok (url.withRest (resolvedPath false) cs)
        | cs => .ok (url.withRest (fun path => String.ofList (encode isControl path)) cs)

/-! ## Tests -/

example : (parse "MySql://u:p%40@h:33/a/../b c?x=1#y").toOption
    = some { scheme := "mysql", username := "u", password := some "p%40", host := some "h",
             port := some 33, path := "/b%20c", query := some "x=1" } := by decide +kernel
example : (parse "a://b\\c").toOption = none ∧ (parse "a:b").toOption
    = some { scheme := "a", path := "b" } := by decide +kernel

end Url

end BoundSql
