import SchemaDdl.OrderedMap
import SchemaDdl.Schema.Settings
import SchemaDdl.Text.Shown

/-!
# Configuration

A project says where its schema is, where the compiled schema and the dumps go,
which settings its schemas start from and which databases it has. A database is
reached under the name of a namespace, and each namespace may put a prefix of
its own before the names of its tables.
-/

namespace SchemaDdl

inductive Dialect where
  | mysql
deriving DecidableEq

def Dialect.name : Dialect → String
  | mysql => "mysql"

def Dialect.ofName? (s : String) : Option Dialect := if s = "mysql" then some mysql else none

structure DatabaseConfig where
  host : String := "localhost"
  port : UInt16 := 3306
  database : String
  user : Option String := none
  password : Option String := none
  tablePrefix : Option String := none
  /-- Seconds to wait for a connection. -/
  timeout : Option UInt64 := none
deriving DecidableEq

structure Config where
  version : String
  dialect : Dialect := .mysql
  schemaFile : String := "db/schema.yaml"
  buildDir : String := "db/build"
  dumpDir : String := "db/generated"
  defaultNamespace : String := "default"
  defaults : Settings := {}
  databases : OrderedMap DatabaseConfig := {}
deriving DecidableEq

inductive ConfigError where
  | missingVersion
  | emptyNamespace
  | missingDatabaseName (space : String)
deriving DecidableEq

def ConfigError.message : ConfigError → String
  | missingVersion => "Config file version is not specified"
  | emptyNamespace => "Default database namespace is empty"
  | missingDatabaseName space =>
    "Invalid config for namespace '" ++ space ++ "': Database name is not specified"

namespace DatabaseConfig

def isValid (d : DatabaseConfig) : Bool := d.database ≠ ""

/-- The user that a connection is made as. -/
def effectiveUser (d : DatabaseConfig) : String := d.user.getD "root"

/-- An empty password is none. -/
def effectivePassword (d : DatabaseConfig) : Option String := d.password.filter (· ≠ "")

def connectionText (d : DatabaseConfig) : String :=
  let credentials := match d.effectivePassword with
    | some p => d.effectiveUser ++ ":" ++ p
    | none => d.effectiveUser
  "mysql://" ++ credentials ++ "@" ++ d.host ++ ":" ++ toString d.port.toNat ++ "/" ++ d.database

end DatabaseConfig

namespace Config

def tablePrefix (c : Config) (space : String) : String :=
  ((c.databases.get? space).bind DatabaseConfig.tablePrefix).getD ""

def validate (c : Config) : Except ConfigError Unit :=
  if c.version = "" then .error .missingVersion
  else if c.defaultNamespace = "" then .error .emptyNamespace
  else match c.databases.entries.find? fun e => !e.2.isValid with
    | some e => .error (.missingDatabaseName e.1)
    | none => .ok ()

def missingNamespaceMessage (c : Config) (space : String) : String :=
  "Database namespace '" ++ space ++ "' not found. Available namespaces: " ++
    Text.shownList c.databases.keys

end Config

end SchemaDdl
