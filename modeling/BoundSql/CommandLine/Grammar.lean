/-!
# Options and places

A command line is a list of arguments.  An argument that begins with two dashes
names an option.  One dash is followed by options of one letter each.  An option
that takes a value takes the rest of its argument, perhaps behind an equals sign,
or else the next argument, unless that looks like an option.  Other arguments take
the places of the command in turn, or name a command that reads the rest.  Behind
two dashes on their own there are no more options and commands.

Arguments are read from left to right.  The first one at fault decides, as does
the first one that asks for help or for the version.
-/

namespace BoundSql.CommandLine

/-- What is wrong with a command line. -/
inductive UsageFault where
  /-- There is no such option, place or command. -/
  | unexpected (argument : String)
  /-- An option is without the value that it takes. -/
  | missingValue (option : String)
  /-- A value is not acceptable. -/
  | invalidValue (name value : String)
  /-- An option is there twice. -/
  | repeated (option : String)
  | missing (name : String)
  /-- Two options exclude each other. -/
  | conflicting (option other : String)
deriving DecidableEq, Repr

/-- The words for a fault. -/
def UsageFault.message : UsageFault → String
  | unexpected argument => "unexpected argument '" ++ argument ++ "'"
  | missingValue option => "a value is required for '--" ++ option ++ "'"
  | invalidValue name value => "invalid value '" ++ value ++ "' for '" ++ name ++ "'"
  | repeated option => "'--" ++ option ++ "' cannot be used multiple times"
  | missing name => "'" ++ name ++ "' is required"
  | conflicting option other => "'--" ++ option ++ "' cannot be used with '--" ++ other ++ "'"

/-- Why nothing is to be done. -/
inductive Stop where
  /-- Help is asked for. -/
  | help
  /-- The version is asked for. -/
  | version
  /-- The command line is at fault. -/
  | fault (f : UsageFault)
deriving DecidableEq, Repr

/-! ## Grammars -/

/-- What an option does. -/
inductive OptionKind where
  /-- It is there or not. -/
  | flag
  | value
  /-- It takes a value each time it is there. -/
  | values
  /-- It asks for help. -/
  | help
  /-- It asks for the version. -/
  | version
deriving DecidableEq, Repr

/-- The option takes a value. -/
def OptionKind.takesValue : OptionKind → Bool
  | value | values => true
  | _ => false

/-- An option. -/
structure OptionSpec where
  name : String
  letter : Option Char := none
  /-- What it does. -/
  kind : OptionKind := .value
  accepts : String → Bool := fun _ => true

/-- A place. -/
structure PlaceSpec where
  name : String
  accepts : String → Bool := fun _ => true

/-- What a command line may consist of. -/
structure Grammar where
  options : List OptionSpec
  places : List PlaceSpec := []
  commands : List String := []

/-! ## Readings -/

/-- What has been read of a command line. -/
structure Reading where
  /-- The options with their values, which are empty for flags. -/
  options : List (String × String) := []
  places : List String := []
  /-- The command, with the arguments behind it. -/
  command : Option (String × List String) := none
deriving DecidableEq, Repr

namespace Reading

/-- An option is there. -/
def has (r : Reading) (name : String) : Bool := r.options.any (·.1 == name)

/-- The values of an option, in order. -/
def values (r : Reading) (name : String) : List String :=
  (r.options.filter (·.1 == name)).map (·.2)

/-- The value of an option. -/
def value? (r : Reading) (name : String) : Option String := (r.values name).head?

/-- Adds an option. -/
def add (r : Reading) (o : OptionSpec) (value : String) : Except Stop Reading :=
  match o.kind with
  | .help => .error .help
  | .version => .error .version
  | kind =>
      if kind != .values && r.has o.name then .error (.fault (.repeated o.name))
      else if !o.accepts value then .error (.fault (.invalidValue o.name value))
      else .ok { r with options := r.options ++ [(o.name, value)] }

/-- Puts an argument in the next place. -/
def place (g : Grammar) (r : Reading) (argument : String) : Except Stop Reading :=
  match g.places[r.places.length]? with
  | none => .error (.fault (.unexpected argument))
  | some p =>
      if p.accepts argument then .ok { r with places := r.places ++ [argument] }
      else .error (.fault (.invalidValue p.name argument))

end Reading

/-! ## Arguments -/

/-- A reading, with the option that still waits for its value. -/
abbrev Waiting := Reading × Option OptionSpec

/-- Reads an option by its name, perhaps with a value behind an equals sign. -/
def readLong (g : Grammar) (r : Reading) (cs : List Char) : Except Stop Waiting :=
  let (name, rest) := cs.span (· != '=')
  match g.options.find? (·.name == String.ofList name), rest with
  | none, _ => .error (.fault (.unexpected (String.ofList ('-' :: '-' :: name))))
  | some o, _ :: value =>
      if o.kind.takesValue then (r.add o (String.ofList value)).map fun r => (r, none)
      else .error (.fault (.unexpected (String.ofList value)))
  | some o, [] =>
      if o.kind.takesValue then .ok (r, some o)
      else (r.add o "").map fun r => (r, none)

/-- Reads options of one letter each. -/
def readLetters (g : Grammar) (r : Reading) : List Char → Except Stop Waiting
  | [] => .ok (r, none)
  | c :: cs =>
      match g.options.find? (·.letter == some c) with
      | none => .error (.fault (.unexpected (String.ofList ['-', c])))
      | some o =>
          if o.kind.takesValue then
            match cs with
            | [] => .ok (r, some o)
            | '=' :: value => (r.add o (String.ofList value)).map fun r => (r, none)
            | value => (r.add o (String.ofList value)).map fun r => (r, none)
          else
            match r.add o "" with
            | .error stop => .error stop
            | .ok r => readLetters g r cs

/-- Reads an argument that looks like an option. -/
def readOption (g : Grammar) (r : Reading) : List Char → Except Stop Waiting
  | '-' :: '-' :: cs => readLong g r cs
  | cs => readLetters g r (cs.drop 1)

/-- An argument that looks like an option. -/
def looksLikeOption (argument : String) : Bool :=
  argument.toList.head? == some '-' && argument != "-"

/-- What the next argument may be. -/
inductive Expected where
  | anything
  | valueOf (o : OptionSpec)
  | place

/-- What follows a reading. -/
def Waiting.expected (w : Waiting) : Expected :=
  match w.2 with
  | none => .anything
  | some o => .valueOf o

/-- Reads the arguments that are left. -/
def readFrom (g : Grammar) : Expected → Reading → List String → Except Stop Reading
  | .valueOf o, _, [] => .error (.fault (.missingValue o.name))
  | _, r, [] => .ok r
  | .valueOf o, r, a :: rest =>
      if looksLikeOption a then .error (.fault (.missingValue o.name))
      else
        match r.add o a with
        | .error stop => .error stop
        | .ok r => readFrom g .anything r rest
  | .place, r, a :: rest =>
      match r.place g a with
      | .error stop => .error stop
      | .ok r => readFrom g .place r rest
  | .anything, r, a :: rest =>
      if a = "--" then readFrom g .place r rest
      else if looksLikeOption a then
        match readOption g r a.toList with
        | .error stop => .error stop
        | .ok w => readFrom g w.expected w.1 rest
      else if g.commands.contains a then .ok { r with command := some (a, rest) }
      else
        match r.place g a with
        | .error stop => .error stop
        | .ok r => readFrom g .anything r rest

/-- Reads arguments. -/
def read (g : Grammar) (arguments : List String) : Except Stop Reading :=
  readFrom g .anything {} arguments

/-! ## Tests -/

/-- A command line with an option of each kind. -/
def sampleGrammar : Grammar where
  options := [{ name := "all", letter := 'a', kind := .flag }, { name := "name", letter := 'n' },
    { name := "help", letter := 'h', kind := .help }]
  places := [{ name := "FILE" }]
  commands := ["go"]

/-- The options and places of a sample command line. -/
def sampleReading? (arguments : List String) : Option (List (String × String) × List String) :=
  ((read sampleGrammar arguments).map fun r => (r.options, r.places)).toOption

example : sampleReading? ["-anx", "f"] = some ([("all", ""), ("name", "x")], ["f"])
    ∧ sampleReading? ["--name=", "--", "-f"] = some ([("name", "")], ["-f"])
    ∧ sampleReading? ["-n", "go", "-"] = some ([("name", "go")], ["-"]) := by decide +kernel
example : sampleReading? ["--name", "-x"] = none ∧ sampleReading? ["-aa"] = none
    ∧ sampleReading? ["--all=1"] = none ∧ sampleReading? ["f", "g"] = none := by decide +kernel

end BoundSql.CommandLine
