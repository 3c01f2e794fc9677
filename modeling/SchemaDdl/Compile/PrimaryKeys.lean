import SchemaDdl.Note
import SchemaDdl.Schema.Basic

/-!
# Settled options, timestamps and primary keys

The first step of a compilation concerns each table by itself. Its options are
filled in from the layers below, three timestamp columns are stored if it has
timestamps, and its key columns are found: the ones it lists, as they are
declared or else as standard keys, or the one column `id`.

The timestamp columns are stored before the key is found, so a key that names
one of them is a timestamp too.
-/

namespace SchemaDdl

def timestampColumns : List String := ["created", "updated", "deleted"]

def standardKeyColumn : String := "id"

namespace Table

def withTimestamps (t : Table) : Table :=
  timestampColumns.foldl (fun t column => t.withField column .timestamp) t

def settled (globals : Settings) (t : Table) : Table :=
  let effective := t.options.onto globals
  let t := { t with options := t.options.fillFrom effective }
  if effective.timestamps then t.withTimestamps else t

def keyFields (t : Table) : OrderedMap Field :=
  match t.options.primaryKey with
  | some columns =>
    .ofList (columns.map fun c => (c, (t.fields.get? c).getD .standardKey))
  | none => .ofList [(standardKeyColumn, .standardKey)]

end Table

/-- Tables with their options settled, and the key columns of each. -/
structure KeyedTables where
  tables : Tables
  keys : KeyIndex

def KeyedTables.ofTables (globals : Settings) (ts : Tables) : KeyedTables :=
  let tables := ts.map fun _ t => t.settled globals
  { tables, keys := tables.map fun _ t => t.keyFields }

def KeyedTables.notes (k : KeyedTables) : List Note :=
  k.keys.entries.map fun e => .primaryKey e.1 e.2.keys

end SchemaDdl
