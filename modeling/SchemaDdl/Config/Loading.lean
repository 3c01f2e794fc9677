import SchemaDdl.Config.Reading
import SchemaDdl.Files.Access

/-!
# Loading the configuration

The file must be there, be readable, hold a configuration and hold a valid one.
-/

namespace SchemaDdl

inductive ConfigLoadError where
  | missing (path : String)
  | unreadable (path cause : String)
  | unparsable (error : ReadError)
  | invalid (error : ConfigError)
deriving DecidableEq

def ConfigLoadError.message : ConfigLoadError → String
  | missing path => (FileError.notFound path).message
  | unreadable path cause => "Failed to read config file: " ++ Text.shown path ++ ": " ++ cause
  | unparsable e => "Failed to parse config file: " ++ e.message
  | invalid e => e.message

namespace Config

/-- The configuration that a text holds, if it is valid. -/
def ofContent (content : String) : Except ConfigLoadError Config := do
  let c ← (ofText content).mapError .unparsable
  c.validate.mapError .invalid
  return c

def load {m : Type → Type} [Monad m] [FileAccess m] (path : String) :
    m (Except ConfigLoadError Config) := do
  if !(← FileAccess.isPresent path) then return .error (.missing path)
  match ← FileAccess.read path with
  | .error cause => return .error (.unreadable path cause)
  | .ok content => return ofContent content

end Config

end SchemaDdl
