import SchemaDdl.Schema.Basic
import SchemaDdl.Document.Node

/-!
# Schemas as documents

The written form leaves out whatever is unset, so that reading it back leaves
it unset again. Two members are written although they say nothing: the options
of a schema, which are always there, and a null for the cascade that sets the
referring column to null, which is a third state beside true and false.
-/

namespace SchemaDdl

/-- The pairs whose value is there. -/
def writtenMembers (l : List (String × Option Node)) : List (String × Node) :=
  l.filterMap fun e => e.2.map (e.1, ·)

def mapNode {α : Type} (write : α → Node) (m : OrderedMap α) : Node :=
  .ofEntries (m.entries.map fun e => (e.1, write e.2))

def nonEmptyMap {α : Type} (write : α → Node) (m : OrderedMap α) : Option Node :=
  if m.isEmpty then none else some (mapNode write m)

def sizeNode (n : UInt32) : Node := .int n.toNat

def Length.toNode : Length → Node
  | size n => sizeNode n
  | precision p s => .list [sizeNode p, sizeNode s]
  | modifier s => .text s

def DefaultValue.toNode : DefaultValue → Node
  | bool b => .bool b
  | integer n => .int n.toInt
  | float d => .float d
  | text s => .text s

def Field.members (f : Field) : List (String × Option Node) :=
  [("type", some (.text f.typeName)),
   ("length", f.length.map Length.toNode),
   ("null", f.nullable.map .bool),
   ("unsigned", f.unsigned.map .bool),
   ("default", f.defaultValue.map DefaultValue.toNode),
   ("autoinc", f.autoIncrement.map .bool),
   ("unique", f.unique.map .bool)]

def Field.toNode (f : Field) : Node := .ofEntries (writtenMembers f.members)

def Cascade.toNode? : Cascade → Option Node
  | cascade => some (.bool true)
  | setNull => some .null
  | restrict => none

def Relation.members (r : Relation) : List (String × Option Node) :=
  [("name", r.column.map .text),
   ("unique", r.unique.map .bool),
   ("default", r.defaultValue.map DefaultValue.toNode),
   ("cascade", r.cascade.toNode?),
   ("table", r.joinTable.map .text)]

def Relation.toNode (r : Relation) : Node := .ofEntries (writtenMembers r.members)

def Constraint.toNode (c : Constraint) : Node :=
  .ofEntries [
    ("name", .text c.name),
    ("fields", .text c.column),
    ("reference_table", .text c.referencedTable),
    ("reference_fields", .text c.referencedColumn),
    ("on_delete", .text c.onDelete.text),
    ("on_update", .text c.onUpdate.text)]

def Settings.toNode (s : Settings) : Node :=
  .ofEntries [
    ("timestamps", .bool s.timestamps),
    ("constraints", .bool s.constraints),
    ("charset", .text s.charset),
    ("collate", .text s.collate),
    ("engine", .text s.engine)]

def Overrides.members (o : Overrides) : List (String × Option Node) :=
  [("timestamps", o.timestamps.map .bool),
   ("constraints", o.constraints.map .bool),
   ("charset", o.charset.map .text),
   ("collate", o.collate.map .text),
   ("engine", o.engine.map .text)]

def KeyIndex.toNode (i : KeyIndex) : Node := mapNode (mapNode Field.toNode) i

def ConstraintIndex.toNode (i : ConstraintIndex) : Node := mapNode (mapNode Constraint.toNode) i

def SchemaOptions.toNode (o : SchemaOptions) : Node :=
  .ofEntries (writtenMembers (o.settings.members ++
    [("pk", nonEmptyMap (mapNode Field.toNode) o.primaryKeys),
     ("fkConstraints", nonEmptyMap (mapNode Constraint.toNode) o.constraints)]))

def textListNode (l : List String) : Node := .list (l.map .text)

def TableOptions.toNode (o : TableOptions) : Node :=
  .ofEntries (writtenMembers (("pk", o.primaryKey.map textListNode) ::
    o.settings.members ++ [("m:m", o.joinTable.map .bool)]))

def Table.members (t : Table) : List (String × Option Node) :=
  [("options", if t.options.isEmpty then none else some t.options.toNode),
   ("m:1", if t.manyToOne.isEmpty then none else some (textListNode t.manyToOne)),
   ("1:m", nonEmptyMap Relation.toNode t.oneToMany),
   ("1:1", nonEmptyMap Relation.toNode t.oneToOne),
   ("m:m", nonEmptyMap Relation.toNode t.manyToMany)]

def Table.toNode (t : Table) : Node :=
  .ofEntries (writtenMembers t.members ++ t.fields.entries.map fun e => (e.1, e.2.toNode))

def Tables.toNode (ts : Tables) : Node := mapNode Table.toNode ts

def Schema.toNode (s : Schema) : Node :=
  .ofEntries (("_options", s.options.toNode) ::
    s.tables.entries.map fun e => (e.1, e.2.toNode))

end SchemaDdl
