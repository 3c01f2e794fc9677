import SchemaDdl.Config.Loading
import SchemaDdl.Database.Configured
import SchemaDdl.Schema.Loading
import SchemaDdl.Session

/-!
# Projects

A command works on the project in a directory: its configuration is loaded
first, and then a session is opened on the schema definition or, if there is
none, on the artifact that an earlier build left for the namespace.
-/

namespace SchemaDdl.Cli

inductive CommandError where
  | missingConfig (path : String)
  | config (error : ConfigLoadError)
  | missingNamespace (config : Config) (space : String)
  | definition (error : DefinitionError)
  | missingSchema (path space : String) (error : ArtifactError)
  | compile (space : String) (error : SchemaError)
  | build (space : String)
  | exportTo (space : String)
  | importTo (space : String)

def CommandError.message : CommandError → String
  | missingConfig path => "Config file not found: " ++ Text.shown path
  | config e => "Failed to read config file: " ++ e.message
  | missingNamespace c space => c.missingNamespaceMessage space
  | definition e => e.message
  | missingSchema path space e =>
    "Schema file not found: " ++ Text.shown path ++
      ", and no build artifact exists for namespace '" ++ space ++ "': " ++ e.message
  | compile space e => "Failed to compile schema for namespace '" ++ space ++ "': " ++ e.message
  | build space => "Failed to build schema for namespace '" ++ space ++ "'"
  | exportTo space => "Failed to export schema for namespace '" ++ space ++ "'"
  | importTo space =>
    "Failed to import schema into namespace '" ++ space ++ "'. Run with --verbose for details."

structure Project where
  directory : String
  config : Config

namespace Project

def schemaFile (p : Project) : String := Path.join p.directory p.config.schemaFile

def store (p : Project) : Store := .ofConfig p.directory p.config

/-- The namespace that is meant when none is named. -/
def target (p : Project) (space : Option String) : String := space.getD p.config.defaultNamespace

/-- A configuration file is looked for in the project's directory. -/
def configPath (directory : String) (given : Option String) : String :=
  Path.join directory (given.getD Naming.configFile)

variable {m : Type → Type} [Monad m] [FileAccess m]

def load (directory : String) (given : Option String) : m (Except CommandError Project) := do
  let path := configPath directory given
  if !(← FileAccess.isPresent path) then return .error (.missingConfig path)
  match ← Config.load path with
  | .error e => return .error (.config e)
  | .ok config => return .ok { directory, config }

variable {σ : Type}

def session (p : Project) (space : String) (names : NameSource) (server : σ) :
    m (Except CommandError (Session (ConfiguredGateway σ)) × List Note) := do
  let path := p.schemaFile
  let compiler : Compiler := { defaults := p.config.defaults, names }
  let gateway := ConfiguredGateway.ofConfig p.config server
  if ← FileAccess.isPresent path then
    match ← Schema.load path with
    | (.error e, notes) => return (.error (.definition e), notes)
    | (.ok schema, notes) =>
      let journal := notes ++ [.loadedDefinition path schema.tables.size]
      return (.ok { schema, compiler, store := p.store, gateway, journal }, [])
  else
    match ← Session.ofArtifact space compiler p.store gateway with
    | .error e => return (.error (.missingSchema path space e), [])
    | .ok s => return (.ok s, [])

end Project

end SchemaDdl.Cli
