import SchemaDdl.Cli.Arguments
import SchemaDdl.Cli.Project

/-!
# Running a command line

A run ends in an outcome: a code, what is to be written, and the notes made on
the way. The code is zero for success, one for a command that failed and two for
a command line that is none. What a command shows is one text; that it succeeded
stands in front of it, in green if colours are wanted.
-/

namespace SchemaDdl.Cli

/-- What a run depends on besides its arguments and the files. -/
structure Environment (σ : Type) where
  directory : String
  color : Bool := false
  /-- The moment of the run, in seconds since the start of 1970. -/
  seconds : Int
  names : NameSource
  server : σ

structure Outcome where
  code : Nat
  output : String := ""
  error : Option String := none
  notes : List Note := []

def escape : String := "\x1b["

def highlighted (color : Bool) (s : String) : String :=
  if color then escape ++ "1;32m" ++ s ++ escape ++ "0m" else s

def builtText (color : Bool) (path : String) (tables : Nat) : String :=
  highlighted color "✓ Built schema:" ++ " " ++ path ++ " (" ++ toString tables ++ " tables)"

def exportedText (color : Bool) (path : String) (statements : Nat) : String :=
  highlighted color "✓ Exported SQL dump:" ++ " " ++ path ++
    " (" ++ toString statements ++ " statements)"

def importedText (color : Bool) (tables : Nat) (space : String) : String :=
  highlighted color "✓ Imported" ++ " " ++ toString tables ++ " tables into namespace '" ++
    space ++ "'"

variable {σ : Type} [Server σ] {m : Type → Type} [Monad m] [FileAccess m]

abbrev SessionOf (σ : Type) := Session (ConfiguredGateway σ)

/-- What a command shows after its work on a session, and the session after it. -/
def perform (env : Environment σ) (color : Bool) (a : Arguments) (space : String)
    (s : SessionOf σ) : m (Except CommandError String × SessionOf σ) := do
  match a.command with
  | .build =>
    let (done, s) ← s.build (some space) a.backup
    if done then
      return (.ok (builtText color (s.store.artifactPath space) s.schema.tables.size), s)
    else return (.error (.build space), s)
  | .exportTo =>
    let (done, s) ← s.exportTo (some space) env.seconds
    if done then return (.ok (exportedText color (s.store.dumpPath space) s.script.length), s)
    else return (.error (.exportTo space), s)
  | .importTo =>
    let (done, s) ← s.importTo (some space)
    if done then return (.ok (importedText color s.schema.tables.size space), s)
    else return (.error (.importTo space), s)
  | .sql =>
    match s.load with
    | (.ok (), s) => return (.ok (String.intercalate "\n" s.statements), s)
    | (.error e, s) => return (.error (.compile space e), s)

/-- Only an import needs the database of its namespace to be configured. -/
def checkNamespace (p : Project) (command : Command) (space : String) : Except CommandError Unit :=
  if command = .importTo && !p.config.databases.contains space then
    .error (.missingNamespace p.config space)
  else .ok ()

def execute (env : Environment σ) (a : Arguments) : m (Except CommandError String × List Note) := do
  match ← Project.load env.directory a.config with
  | .error e => return (.error e, [])
  | .ok project =>
    let space := project.target a.space
    match checkNamespace project a.command space with
    | .error e => return (.error e, [])
    | .ok () =>
      match ← project.session space env.names env.server with
      | (.error e, notes) => return (.error e, notes)
      | (.ok s, _) =>
        let (result, s) ← perform env (env.color && !a.noColor) a space s
        return (result, s.journal)

def run (env : Environment σ) (args : List String) : m Outcome := do
  match Request.ofArguments args with
  | .refused e => return { code := 2, error := some e.message }
  | .help command => return { code := 0, output := helpText command }
  | .version command => return { code := 0, output := versionText command }
  | .run a =>
    match ← execute env a with
    | (.ok output, notes) => return { code := 0, output, notes }
    | (.error e, notes) => return { code := 1, error := some ("Error: " ++ e.message), notes }

end SchemaDdl.Cli
