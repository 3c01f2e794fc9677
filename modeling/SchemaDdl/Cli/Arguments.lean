import SchemaDdl.Naming

/-!
# Arguments

The command line is a command with switches. The switches of all commands may
stand before or after the command, those of one command only behind it. A
switch has a long name and mostly a short one; short ones may share a dash, and
a value may follow in the next argument, behind an equals sign, or directly
behind a short name. No switch may be given twice on one side of the command; of
one given on both sides the value behind the command counts.

Arguments are taken from left to right, so whatever comes first, a mistake or
the wish for help, is all that is answered.
-/

namespace SchemaDdl.Cli

inductive Command where
  | build
  | importTo
  | exportTo
  | sql
deriving DecidableEq

def Command.name : Command → String
  | build => "build"
  | importTo => "import"
  | exportTo => "export"
  | sql => "sql"

def Command.all : List Command := [.build, .importTo, .exportTo, .sql]

def Command.ofName? (name : String) : Option Command := all.find? fun c => c.name = name

inductive Switch where
  | config
  | verbose
  | noColor
  | space
  | backup
  | help
  | version
deriving DecidableEq

namespace Switch

def long : Switch → String
  | config => "config"
  | verbose => "verbose"
  | noColor => "no-color"
  | space => "namespace"
  | backup => "backup"
  | help => "help"
  | version => "version"

def short? : Switch → Option Char
  | config => some 'c'
  | verbose => some 'v'
  | noColor => none
  | space => some 'n'
  | backup => some 'b'
  | help => some 'h'
  | version => some 'V'

def takesValue : Switch → Bool
  | config | space => true
  | _ => false

def common : List Switch := [config, verbose, noColor, help, version]

end Switch

def Command.switches : Command → List Switch
  | build => [.space, .backup] ++ Switch.common
  | _ => .space :: Switch.common

inductive UsageError where
  | unknownSwitch (name : String)
  | missingValue (s : Switch)
  | unwantedValue (s : Switch)
  | repeated (s : Switch)
  | unexpected (argument : String)
  | missingCommand
deriving DecidableEq

def UsageError.message : UsageError → String
  | unknownSwitch name => "unknown switch '" ++ name ++ "'"
  | missingValue s => "'--" ++ s.long ++ "' needs a value"
  | unwantedValue s => "'--" ++ s.long ++ "' takes no value"
  | repeated s => "'--" ++ s.long ++ "' is given more than once"
  | unexpected argument => "unexpected argument '" ++ argument ++ "'"
  | missingCommand => "a command is needed"

/-- Why no further argument is looked at. -/
inductive Halt where
  | refused (error : UsageError)
  | help
  | version
deriving DecidableEq

/-! ## Single arguments -/

/-- What an argument says, piece by piece. -/
inductive Piece where
  | given (s : Switch) (value : String)
  /-- The value is the next argument. -/
  | awaiting (s : Switch)
  | mistake (error : UsageError)

def longPieces (known : List Switch) (body : List Char) : List Piece :=
  let name := String.ofList (body.takeWhile (· ≠ '='))
  let attached : Option String := match body.dropWhile (· ≠ '=') with
    | [] => none
    | _ :: value => some (.ofList value)
  match known.find? fun s => s.long = name, attached with
  | none, _ => [.mistake (.unknownSwitch ("--" ++ name))]
  | some s, some value =>
    if s.takesValue then [.given s value] else [.mistake (.unwantedValue s)]
  | some s, none => if s.takesValue then [.awaiting s] else [.given s ""]

def shortPieces (known : List Switch) : List Char → List Piece
  | [] => []
  | c :: r =>
    match known.find? fun s => s.short? = some c with
    | none => [.mistake (.unknownSwitch (.ofList ['-', c]))]
    | some s =>
      if s.takesValue then
        match r with
        | [] => [.awaiting s]
        | '=' :: value => [.given s (.ofList value)]
        | value => [.given s (.ofList value)]
      else .given s "" :: shortPieces known r

/-- The pieces of a switch or of several, and nothing for a word. -/
def pieces? (known : List Switch) (argument : String) : Option (List Piece) :=
  match argument.toList with
  | '-' :: '-' :: body => some (longPieces known body)
  | ['-'] => none
  | '-' :: body => some (shortPieces known body)
  | _ => none

/-! ## Rows of arguments -/

/-- The switches given so far, and the one whose value comes next. -/
structure Given where
  values : List (Switch × String) := []
  awaiting : Option Switch := none

namespace Given

def record (g : Given) (s : Switch) (value : String) : Except Halt Given :=
  match s with
  | .help => .error .help
  | .version => .error .version
  | s =>
    if (g.values.lookup s).isSome then .error (.refused (.repeated s))
    else if s = .config && value = "" then .error (.refused (.missingValue s))
    else .ok { values := (s, value) :: g.values }

def take (g : Given) : Piece → Except Halt Given
  | .given s value => g.record s value
  | .awaiting s => .ok { g with awaiting := some s }
  | .mistake e => .error (.refused e)

def has (g : Given) (s : Switch) : Bool := (g.values.lookup s).isSome

end Given

/-- Takes switches up to the first word, and returns the arguments from there. -/
def takeSwitches (known : List Switch) (g : Given) : List String → Except Halt (Given × List String)
  | [] =>
    match g.awaiting with
    | some s => .error (.refused (.missingValue s))
    | none => .ok (g, [])
  | a :: r =>
    match g.awaiting, pieces? known a with
    | some s, some _ => .error (.refused (.missingValue s))
    | some s, none => do takeSwitches known (← g.record s a) r
    | none, some ps =>
      if a = "--" then
        match r with
        | [] => .ok (g, [])
        | b :: _ => .error (.refused (.unexpected b))
      else do takeSwitches known (← ps.foldlM Given.take g) r
    | none, none => .ok (g, a :: r)

/-! ## Command lines -/

structure Arguments where
  command : Command
  config : Option String := none
  verbose : Bool := false
  noColor : Bool := false
  space : Option String := none
  backup : Bool := false
deriving DecidableEq

/-- What a command line asks for. -/
inductive Request where
  | run (arguments : Arguments)
  | help (command : Option Command)
  | version (command : Option Command)
  | refused (error : UsageError)
deriving DecidableEq

namespace Request

def ofHalt (command : Option Command) : Halt → Request
  | .refused e => refused e
  | .help => help command
  | .version => version command

/-- A request of the switches before the command and those behind it. -/
def ofGiven (command : Command) (before behind : Given) : Request :=
  run {
    command
    config := behind.values.lookup .config <|> before.values.lookup .config
    verbose := before.has .verbose || behind.has .verbose
    noColor := before.has .noColor || behind.has .noColor
    space := behind.values.lookup .space
    backup := behind.has .backup }

def helpWord : String := "help"

/-- The word for help may name a command. -/
def ofHelp : List String → Request
  | [] => help none
  | word :: r =>
    match Command.ofName? word, r with
    | some c, [] => help (some c)
    | some _, b :: _ => refused (.unexpected b)
    | none, _ => if word = helpWord then help none else refused (.unexpected word)

def ofArguments (args : List String) : Request :=
  match takeSwitches Switch.common {} args with
  | .error h => ofHalt none h
  | .ok (_, []) => refused .missingCommand
  | .ok (before, word :: r) =>
    if word = helpWord then ofHelp r
    else match Command.ofName? word with
      | none => refused (.unexpected word)
      | some command =>
        match takeSwitches command.switches {} r with
        | .error h => ofHalt (some command) h
        | .ok (_, extra :: _) => refused (.unexpected extra)
        | .ok (behind, []) => ofGiven command before behind

end Request

/-! ## Texts about the command line -/

def versionText : Option Command → String
  | none => Naming.identity
  | some c => Naming.program ++ "-" ++ c.name ++ " " ++ Naming.version

def Command.summary : Command → String
  | build => "compile the schema and write the artifact"
  | importTo => "execute the script in a database"
  | exportTo => "write the script as a dump"
  | sql => "print the script"

def commandLine (c : Command) : String := "  " ++ c.name ++ ": " ++ c.summary

def Switch.usage (s : Switch) : String :=
  "  --" ++ s.long ++ (if s.takesValue then " <value>" else "") ++
    (match s.short? with
    | some c => " (-" ++ String.ofList [c] ++ ")"
    | none => "")

def helpText (command : Option Command) : String :=
  let (title, commands, switches) := match command with
    | none => (Naming.program ++ " <command>", Command.all.map commandLine, Switch.common)
    | some c => (Naming.program ++ " " ++ c.name, [commandLine c], c.switches)
  String.intercalate "\n" (title :: commands ++ switches.map Switch.usage)

end SchemaDdl.Cli
