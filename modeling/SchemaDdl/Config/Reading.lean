import SchemaDdl.Config.Basic
import SchemaDdl.Document.Yaml.Typing
import SchemaDdl.Schema.Reading
import SchemaDdl.Schema.Writing

/-!
# The configuration file

The file is YAML. Its version and the name of each database must be given;
everything else has a standard value or is unset.
-/

namespace SchemaDdl

section

variable {τ : Type} [Source τ]

def readBounded (bound : Nat) (t : τ) : Except ReadError Nat := do
  let n ← Source.whole t
  if 0 ≤ n ∧ n < bound then return n.toNat else throw .outOfRange

def DatabaseConfig.memberNames : List String :=
  ["host", "port", "database", "user", "password", "prefix", "timeout"]

def DatabaseConfig.read (t : τ) : Except ReadError DatabaseConfig := do
  match ← Source.members DatabaseConfig.memberNames t with
  | [host, port, database, user, password, tablePrefix, timeout] => return {
      host := ← memberOr "localhost" Source.text host
      port := .ofNat (← memberOr 3306 (readBounded UInt16.size) port)
      database := ← requiredMember "database" Source.text database
      user := ← optionalMember Source.text user
      password := ← optionalMember Source.text password
      tablePrefix := ← optionalMember Source.text tablePrefix
      timeout := (← optionalMember (readBounded UInt64.size) timeout).map .ofNat }
  | _ => throw .malformed

def Dialect.read (t : τ) : Except ReadError Dialect := do
  match Dialect.ofName? (← Source.choice "Dialect" t) with
  | some d => return d
  | none => throw (.unexpected "a database dialect")

def Config.memberNames : List String :=
  ["version", "dialect", "schema_file", "build_dir", "generated_dir", "default_namespace",
   "defaults", "databases"]

def Config.read (t : τ) : Except ReadError Config := do
  match ← Source.members Config.memberNames t with
  | [version, dialect, schemaFile, buildDir, dumpDir, defaultNamespace, defaults, databases] =>
    let standard : Config := { version := "" }
    return {
      version := ← requiredMember "version" Source.text version
      dialect := ← memberOr standard.dialect Dialect.read dialect
      schemaFile := ← memberOr standard.schemaFile Source.text schemaFile
      buildDir := ← memberOr standard.buildDir Source.text buildDir
      dumpDir := ← memberOr standard.dumpDir Source.text dumpDir
      defaultNamespace := ← memberOr standard.defaultNamespace Source.text defaultNamespace
      defaults := ← memberOr {} Settings.read defaults
      databases := ← memberOr {} (readMap DatabaseConfig.read) databases }
  | _ => throw .malformed

end

def Config.ofText (s : String) : Except ReadError Config := Yaml.read s >>= Config.read

/-! ## The configuration as a document -/

def textOrNull : Option String → Node
  | some s => .text s
  | none => .null

def DatabaseConfig.toNode (d : DatabaseConfig) : Node :=
  .ofEntries [
    ("host", .text d.host),
    ("port", .int d.port.toNat),
    ("database", .text d.database),
    ("user", textOrNull d.user),
    ("password", textOrNull d.password),
    ("prefix", textOrNull d.tablePrefix),
    ("timeout", match d.timeout with
      | some n => .int n.toNat
      | none => .null)]

def Config.toNode (c : Config) : Node :=
  .ofEntries [
    ("version", .text c.version),
    ("dialect", .text c.dialect.name),
    ("schema_file", .text c.schemaFile),
    ("build_dir", .text c.buildDir),
    ("generated_dir", .text c.dumpDir),
    ("default_namespace", .text c.defaultNamespace),
    ("defaults", c.defaults.toNode),
    ("databases", mapNode DatabaseConfig.toNode c.databases)]

end SchemaDdl
