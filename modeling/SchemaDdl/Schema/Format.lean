import SchemaDdl.Document.Json.Reader
import SchemaDdl.Document.Yaml.Typing
import SchemaDdl.Files.Path
import SchemaDdl.Schema.Reading

/-!
# The two forms of a schema definition

A schema is written as YAML or as JSON, and the extension of its file says
which.
-/

namespace SchemaDdl

inductive SchemaFormat where
  | yaml
  | json
deriving DecidableEq

def SchemaFormat.ofExtension? : String → Option SchemaFormat
  | "yaml" | "yml" => some yaml
  | "json" => some json
  | _ => none

def SchemaFormat.ofPath? (path : String) : Option SchemaFormat :=
  Path.extension? path >>= ofExtension?

def Schema.ofText : SchemaFormat → String → Except ReadError Schema
  | .yaml, s => Yaml.read s >>= Schema.read
  | .json, s => Json.read s >>= Schema.read

end SchemaDdl
