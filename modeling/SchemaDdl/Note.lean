import SchemaDdl.Schema.Error
import SchemaDdl.Text.Shown

/-!
# What a run reports

While a schema is read, compiled, stored and imported, things are decided that
no result shows: a relation was skipped, a file was written. Each is a `Note`.
The pure parts of the program return their notes beside their result, in the
order in which they were made, and the outer layer writes those of a level that
was asked for. A note that tells of a failure carries the error, of the schema
or of the database.
-/

namespace SchemaDdl

/-- What can go wrong at the database. -/
inductive DatabaseError where
  | connection (message cause : String)
  | query (message : String) (sql : Option String)
  | unknownNamespace (name : String)
deriving DecidableEq

def DatabaseError.message : DatabaseError → String
  | connection message cause =>
    "Database connection error: " ++ message ++ " (cause: " ++ cause ++ ")"
  | query message _ => "Query execution error: " ++ message
  | unknownNamespace name => "Unknown database namespace '" ++ name ++ "'"

inductive Level where
  | debug
  | info
  | warning
  | failure
deriving DecidableEq

def Level.name : Level → String
  | debug => "DEBUG"
  | info => "INFO"
  | warning => "WARN"
  | failure => "ERROR"

inductive Note where
  | skippedTable (table : String) (error : SchemaError)
  | skippedField (table field : String) (error : SchemaError)
  | skippedRelation (table other : String) (error : SchemaError)
  | primaryKey (table : String) (columns : List String)
  | skippedManyToMany (error : SchemaError)
  | skippedJoinTable (name : String) (error : SchemaError)
  | joinTable (name table other : String)
  | skippedManyToOne (table : String) (error : SchemaError)
  | skippedForeignKey (table referenced : String) (error : SchemaError)
  | skippedColumn (table field : String) (error : SchemaError)
  | alreadyCompiled
  | compiled (tables statements : Nat)
  | wroteArtifact (path : String)
  | wroteBackup (path : String)
  | wroteDump (path : String)
  | loadedArtifact (space : String) (tables : Nat)
  | loadedDefinition (path : String) (tables : Nat)
  | compileFailed (error : SchemaError)
  | built (space path : String) (backup : Bool)
  | buildFailed (space error : String)
  | switchFailed (space : String) (error : DatabaseError)
  | importAborted (space : String) (applied : Nat) (error : DatabaseError)
  | restoreFailed (space : String) (error : DatabaseError)
  | imported (space : String) (applied : Nat)
  | exported (space path : String)
  | exportFailed (space error : String)
  | openingConnection (space host : String)
  | switchingNamespace (source target : String)
deriving DecidableEq

namespace Note

def level : Note → Level
  | skippedTable .. | skippedField .. | skippedRelation .. | skippedJoinTable ..
  | skippedForeignKey .. | skippedColumn .. | compileFailed .. => .warning
  | primaryKey .. | skippedManyToMany .. | joinTable .. | skippedManyToOne .. | alreadyCompiled
  | wroteArtifact .. | wroteBackup .. | wroteDump .. | loadedArtifact .. | loadedDefinition ..
  | openingConnection .. | switchingNamespace .. => .debug
  | compiled .. | built .. | imported .. | exported .. => .info
  | buildFailed .. | switchFailed .. | importAborted .. | restoreFailed .. | exportFailed .. =>
    .failure

def message : Note → String
  | skippedTable .. => "Skipping table"
  | skippedField .. => "Skipping field"
  | skippedRelation .. => "Skipping relation"
  | primaryKey .. => "Resolved primary key"
  | skippedManyToMany .. => "Skipping many-to-many relation"
  | skippedJoinTable .. => "Skipping pivot table"
  | joinTable .. => "Synthesized pivot table"
  | skippedManyToOne .. => "Skipping many-to-one relation"
  | skippedForeignKey .. => "Skipping foreign key"
  | skippedColumn .. => "Skipping column"
  | alreadyCompiled => "Schema already compiled, rendering only"
  | compiled .. => "Compiled schema"
  | wroteArtifact .. => "Wrote compiled schema"
  | wroteBackup .. => "Wrote compiled schema backup"
  | wroteDump .. => "Wrote SQL dump"
  | loadedArtifact .. => "Loaded compiled schema"
  | loadedDefinition .. => "Loaded schema definition"
  | compileFailed .. => "Failed to compile schema"
  | built .. => "Built schema"
  | buildFailed .. => "Failed to build schema"
  | switchFailed .. => "Failed to switch database connection"
  | importAborted .. => "Import aborted"
  | restoreFailed .. => "Failed to restore database connection"
  | imported .. => "Imported schema"
  | exported .. => "Exported schema"
  | exportFailed .. => "Failed to export schema"
  | openingConnection .. => "Creating connection pool"
  | switchingNamespace .. => "Switching database namespace"

/-- The named details of a note, in the order in which they are written. -/
def details : Note → List (String × String)
  | skippedTable table e => [("table", table), ("error", e.message)]
  | skippedField table field e => [("table", table), ("field", field), ("error", e.message)]
  | skippedRelation table other e => [("table", table), ("relation", other), ("error", e.message)]
  | primaryKey table columns => [("table", table), ("pk", Text.shownList columns)]
  | skippedManyToMany e => [("error", e.message)]
  | skippedJoinTable name e => [("pivot", name), ("error", e.message)]
  | joinTable name table other => [("pivot", name), ("table", table), ("other", other)]
  | skippedManyToOne table e => [("table", table), ("error", e.message)]
  | skippedForeignKey table referenced e =>
    [("table", table), ("references", referenced), ("error", e.message)]
  | skippedColumn table field e => [("table", table), ("field", field), ("error", e.message)]
  | alreadyCompiled => []
  | compiled tables statements =>
    [("tables", toString tables), ("statements", toString statements)]
  | wroteArtifact path | wroteBackup path | wroteDump path => [("path", path)]
  | loadedArtifact space tables => [("namespace", space), ("tables", toString tables)]
  | loadedDefinition path tables => [("path", path), ("tables", toString tables)]
  | compileFailed e => [("error", e.message)]
  | built space path backup =>
    [("namespace", space), ("path", path), ("backup", if backup then "true" else "false")]
  | buildFailed space error | exportFailed space error => [("namespace", space), ("error", error)]
  | switchFailed space e | restoreFailed space e => [("namespace", space), ("error", e.message)]
  | importAborted space applied e =>
    [("namespace", space), ("applied", toString applied), ("error", e.message)]
  | imported space applied => [("namespace", space), ("applied", toString applied)]
  | exported space path => [("namespace", space), ("path", path)]
  | openingConnection space host => [("namespace", space), ("host", host)]
  | switchingNamespace source target => [("from", source), ("to", target)]

end Note

end SchemaDdl
