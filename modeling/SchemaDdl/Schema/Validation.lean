import SchemaDdl.Identifier
import SchemaDdl.Note
import SchemaDdl.Schema.Basic

/-!
# Leaving out invalid names

Whatever is named badly is left out with a warning, and everything else is
kept as it stands: a table by its name, a field by its name, a relation by the
names it gives itself. Only when tables were declared and none is left is there
nothing to go on with.

`Schema.validate` is the result, `Schema.validationNotes` the warnings, first
those about tables and then, for each table that is kept, those about its
fields and relations.
-/

namespace SchemaDdl

/-- The first error among the names that a relation gives. -/
def Relation.nameError? (r : Relation) : Option SchemaError :=
  (r.column.toList ++ r.joinTable.toList).findSome? fun name =>
    match Identifier.check name with
    | .ok _ => none
    | .error e => some e

def Relation.isNamedWell (r : Relation) : Bool := r.nameError?.isNone

def nameError? (name : String) : Option SchemaError :=
  match Identifier.check name with
  | .ok _ => none
  | .error e => some e

namespace Table

def validated (t : Table) : Table :=
  { t with
    fields := t.fields.filter fun name _ => Identifier.isValid name
    oneToMany := t.oneToMany.filter fun _ r => r.isNamedWell
    oneToOne := t.oneToOne.filter fun _ r => r.isNamedWell
    manyToMany := t.manyToMany.filter fun _ r => r.isNamedWell }

def relationNotes (name : String) (rs : OrderedMap Relation) : List Note :=
  rs.entries.filterMap fun e => e.2.nameError?.map (.skippedRelation name e.1)

def validationNotes (name : String) (t : Table) : List Note :=
  t.fields.keys.filterMap (fun f => (nameError? f).map (.skippedField name f)) ++
    relationNotes name t.oneToMany ++ relationNotes name t.oneToOne ++
    relationNotes name t.manyToMany

end Table

namespace Schema

def validTables (s : Schema) : Tables := s.tables.filter fun name _ => Identifier.isValid name

def validate (s : Schema) : Except SchemaError Schema :=
  if !s.tables.isEmpty && s.validTables.isEmpty then .error .emptySchema
  else .ok { s with tables := s.validTables.map fun _ t => t.validated }

def validationNotes (s : Schema) : List Note :=
  s.tables.keys.filterMap (fun t => (nameError? t).map (.skippedTable t)) ++
    s.validTables.entries.flatMap fun e => e.2.validationNotes e.1

end Schema

end SchemaDdl
