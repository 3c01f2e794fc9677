import SchemaDdl.Files.Access
import SchemaDdl.Schema.Format
import SchemaDdl.Schema.Validation
import SchemaDdl.Text.Shown

/-!
# Loading a schema definition

A definition is loaded from a file: the file must be there, its extension must
be known, its text must be a schema, and what is left after invalid names are
dropped must not be empty. The first of these that fails is the error.
-/

namespace SchemaDdl

inductive DefinitionError where
  | file (error : FileError)
  | unknownExtension (path : String)
  | unreadable (path : String) (error : ReadError)
  | schema (error : SchemaError)
deriving DecidableEq

def DefinitionError.message : DefinitionError → String
  | file e => e.message
  | unknownExtension path =>
    "Unsupported schema file extension: " ++ Text.shownOption (Path.extension? path) ++
      " (" ++ path ++ ")"
  | unreadable path e => "Failed to parse schema file: " ++ Text.shown path ++ ": " ++ e.message
  | schema e => e.message

namespace Schema

/-- The valid part of a schema written in a file of the path, with notes on the rest. -/
def ofDefinition (path content : String) : Except DefinitionError Schema × List Note :=
  match SchemaFormat.ofPath? path with
  | none => (.error (.unknownExtension path), [])
  | some format =>
    match ofText format content with
    | .error e => (.error (.unreadable path e), [])
    | .ok s => (s.validate.mapError .schema, s.validationNotes)

variable {m : Type → Type} [Monad m] [FileAccess m]

/-- An unknown extension is reported before the file is read. -/
def load (path : String) : m (Except DefinitionError Schema × List Note) := do
  if !(← FileAccess.isPresent path) then return (.error (.file (.notFound path)), [])
  if SchemaFormat.ofPath? path = none then return (.error (.unknownExtension path), [])
  match ← FileAccess.read path with
  | .error cause => return (.error (.file (.read path cause)), [])
  | .ok content => return ofDefinition path content

end Schema

end SchemaDdl
