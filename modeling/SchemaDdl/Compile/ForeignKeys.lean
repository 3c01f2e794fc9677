import SchemaDdl.Compile.NameSource
import SchemaDdl.Note
import SchemaDdl.Schema.Basic

/-!
# Foreign keys

The foreign keys of a table come from its many-to-one relations, each looked up
at the other end, and then from its one-to-one relations. A many-to-one without
its other end is passed over.

A foreign key column is a copy of a key column of the table it refers to: of
the one with the same name if there is one, and of the first otherwise. The
copy does not count up by itself, and whether it may be null depends only on
whether the relation gives a default. The constraint refers to the same key
column, which is why both are made from one look-up.
-/

namespace SchemaDdl

/-- What a table's many-to-one relation to another says, written at the other table. -/
def Tables.converse? (ts : Tables) (table other : String) : Option Relation :=
  ts.get? other >>= fun t => t.oneToMany.get? table

def manyToOneKeys (ts : Tables) (table : String) (t : Table) : List (String × ForeignKey) :=
  t.manyToOne.filterMap fun other => (ts.converse? table other).map fun r => (other, r.resolve other)

def oneToOneKeys (t : Table) : List (String × ForeignKey) :=
  t.oneToOne.entries.map fun e => (e.1, e.2.resolve e.1)

/-- The foreign keys of a table with the tables they refer to, in order of declaration. -/
def Tables.foreignKeys (ts : Tables) (table : String) : List (String × ForeignKey) :=
  match ts.get? table with
  | none => []
  | some t => manyToOneKeys ts table t ++ oneToOneKeys t

/-- A note for each many-to-one relation that is passed over. -/
def Tables.oneSidedNotes (ts : Tables) (table : String) : List Note :=
  match ts.get? table with
  | none => []
  | some t =>
    (t.manyToOne.filter fun other => (ts.converse? table other).isNone).map fun other =>
      .skippedManyToOne table (.ambiguousReference table other)

/-- The key column that a foreign key refers to. -/
def KeyIndex.referenced (keys : KeyIndex) (table : String) (fk : ForeignKey) :
    Except SchemaError (String × Field) :=
  match keys.get? table with
  | none => .error (.notATable table)
  | some columns =>
    match columns.get? fk.column with
    | some field => .ok (fk.column, field)
    | none =>
      match columns.first? with
      | some found => .ok found
      | none => .error (.missingPrimaryKey table)

namespace ForeignKey

/-- The column of a foreign key, copied from the key column it refers to. -/
def columnField (fk : ForeignKey) (key : Field) : Field :=
  { key with
    autoIncrement := none
    unique := if fk.unique then some true else key.unique
    defaultValue := match fk.defaultValue with
      | some v => some v
      | none => key.defaultValue
    nullable := some fk.defaultValue.isNone }

def field (fk : ForeignKey) (keys : KeyIndex) (table : String) : Except SchemaError Field :=
  (keys.referenced table fk).map fun found => fk.columnField found.2

def constraint (fk : ForeignKey) (name table referencedColumn : String) : Constraint where
  name := name
  column := fk.column
  referencedTable := table
  referencedColumn := referencedColumn
  onDelete := fk.cascade.onDelete
  onUpdate := .noAction

end ForeignKey

/-- Columns and constraints gathered for a table, and the names left. -/
structure GatheredKeys where
  fields : OrderedMap Field := {}
  constraints : OrderedMap Constraint := {}
  names : NameSource
  notes : List Note := []

namespace GatheredKeys

/-- A foreign key that cannot be resolved leaves a note and nothing else. -/
def add (keys : KeyIndex) (withConstraints : Bool) (table : String) (g : GatheredKeys)
    (e : String × ForeignKey) : GatheredKeys :=
  match keys.referenced e.1 e.2 with
  | .error error => { g with notes := g.notes ++ [.skippedForeignKey table e.1 error] }
  | .ok (column, field) =>
    let g := { g with fields := g.fields.insert e.2.column (e.2.columnField field) }
    if withConstraints then
      let (name, names) := g.names.next
      { g with
        constraints := g.constraints.insert e.2.column (e.2.constraint name e.1 column)
        names }
    else g

def ofTable (ts : Tables) (keys : KeyIndex) (withConstraints : Bool) (names : NameSource)
    (table : String) : GatheredKeys :=
  (ts.foreignKeys table).foldl (add keys withConstraints table)
    { names, notes := ts.oneSidedNotes table }

end GatheredKeys

end SchemaDdl
