import SchemaDdl.Artifact.Date
import SchemaDdl.Config.Basic
import SchemaDdl.Document.Yaml.Typing
import SchemaDdl.Document.Yaml.Writer
import SchemaDdl.Files.Access
import SchemaDdl.Naming
import SchemaDdl.Note
import SchemaDdl.Schema.Reading
import SchemaDdl.Schema.Writing

/-!
# Stored schemas and dumps

A compiled schema is kept as a YAML file, the artifact, from which it can be
loaded again; a script is kept as a dump with a header that says who made it and
when. Each namespace has its own files in the two directories of the project,
and the artifact may have a copy beside it as a backup.
-/

namespace SchemaDdl

def Schema.artifactText (s : Schema) : String := Yaml.write s.toNode

def Schema.ofArtifactText (text : String) : Except ReadError Schema :=
  Yaml.read text >>= Schema.read

def dumpText (statements : List String) (seconds : Int) : String :=
  "--\n-- Generated by " ++ Naming.identity ++ "\n-- " ++ Date.mailText seconds ++ "\n--\n\n" ++
    String.intercalate "\n" statements

inductive ArtifactError where
  | file (error : FileError)
  | invalid (path : String) (error : ReadError)
deriving DecidableEq

/-- What an artifact that cannot be read back is reported as. -/
def artifactReadMessage (e : ReadError) : String := "Failed to parse compiled schema: " ++ e.message

def ArtifactError.message : ArtifactError → String
  | file e => e.message
  | invalid path e => "Invalid artifact: " ++ Text.shown path ++ ": " ++ artifactReadMessage e

structure Store where
  buildDir : String
  dumpDir : String
deriving DecidableEq

namespace Store

/-- The store of a project, its directories seen from the project's own. -/
def ofConfig (directory : String) (c : Config) : Store where
  buildDir := Path.join directory c.buildDir
  dumpDir := Path.join directory c.dumpDir

def artifactPath (s : Store) (space : String) : String :=
  Path.join s.buildDir (Naming.artifactFile space)

def backupPath (s : Store) (space : String) : String :=
  Path.join s.buildDir (Naming.backupFile space)

def dumpPath (s : Store) (space : String) : String := Path.join s.dumpDir (Naming.dumpFile space)

variable {m : Type → Type} [Monad m] [FileAccess m]

def saveBackup (s : Store) (space : String) : m (Except FileError Unit × List Note) := do
  let path := s.backupPath space
  match ← FileAccess.duplicate (s.artifactPath space) path with
  | .ok () => return (.ok (), [.wroteBackup path])
  | .error e => return (.error e, [])

/-- Writes the artifact of a namespace, and its backup if one is wanted. -/
def save (s : Store) (schema : Schema) (space : String) (backup : Bool) :
    m (Except FileError Unit × List Note) := do
  let path := s.artifactPath space
  match ← FileAccess.store path schema.artifactText with
  | .error e => return (.error e, [])
  | .ok () =>
    if backup then
      let (result, notes) ← s.saveBackup space
      return (result, .wroteArtifact path :: notes)
    else return (.ok (), [.wroteArtifact path])

def load (s : Store) (space : String) : m (Except ArtifactError Schema) := do
  let path := s.artifactPath space
  match ← FileAccess.contentOf path with
  | .error e => return .error (.file e)
  | .ok content => return (Schema.ofArtifactText content).mapError (.invalid path)

def writeDump (s : Store) (space : String) (statements : List String) (seconds : Int) :
    m (Except FileError Unit × List Note) := do
  let path := s.dumpPath space
  match ← FileAccess.store path (dumpText statements seconds) with
  | .error e => return (.error e, [])
  | .ok () => return (.ok (), [.wroteDump path])

end Store

end SchemaDdl
