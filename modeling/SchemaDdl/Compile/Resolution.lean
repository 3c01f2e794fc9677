import SchemaDdl.Compile.JoinTables

/-!
# Resolving a schema

Keys, join tables and foreign keys are resolved in this order, and the columns
of each table are merged from them at the end. Key columns come first, foreign
key columns second and declared columns last; a column that stands in several
places is defined by the last and stands where it stood first.

The foreign keys of a table depend on the relations and keys of the others but
never on their columns, so all of them are gathered from the same tables, one
table after another because names are drawn in that order. Merging the columns
of each table in the same loop comes to the same (`Schema.resolveInPlace_eq`).

The resolved schema keeps the options it was declared with and stores the key
columns and the constraints beside them. Constraints stored before are dropped:
they belong to a schema that no longer exists.
-/

namespace SchemaDdl

def mergeColumns (key : Option (OrderedMap Field)) (foreign declared : OrderedMap Field) :
    OrderedMap Field :=
  ((key.getD {}).extend foreign).extend declared

/-- Foreign keys of the tables gathered so far, and the names left. -/
structure ResolvedKeys where
  foreign : List (String × GatheredKeys) := []
  names : NameSource

namespace ResolvedKeys

def add (j : JoinedTables) (globals : Settings) (r : ResolvedKeys) (e : String × Table) :
    ResolvedKeys :=
  let withConstraints := e.2.options.settings.constraints.getD globals.constraints
  let g := GatheredKeys.ofTable j.tables j.keys withConstraints r.names e.1
  { foreign := r.foreign ++ [(e.1, g)], names := g.names }

def ofJoined (globals : Settings) (j : JoinedTables) : ResolvedKeys :=
  j.tables.entries.foldl (add j globals) { names := j.names }

def fields (r : ResolvedKeys) (table : String) : OrderedMap Field :=
  match r.foreign.lookup table with
  | some g => g.fields
  | none => {}

/-- The constraints of the join tables with those of the foreign keys added to them. -/
def constraints (r : ResolvedKeys) (joined : ConstraintIndex) : ConstraintIndex :=
  r.foreign.foldl (fun index e =>
    if e.2.constraints.isEmpty then index
    else index.insert e.1 (((index.get? e.1).getD {}).extend e.2.constraints)) joined

def notes (r : ResolvedKeys) : List Note := r.foreign.flatMap fun e => e.2.notes

end ResolvedKeys

structure Resolution where
  schema : Schema
  names : NameSource
  notes : List Note

def Schema.resolve (s : Schema) (defaults : Settings) (names : NameSource) : Resolution :=
  let globals := s.globals defaults
  let keyed := KeyedTables.ofTables globals s.tables
  let joined := JoinedTables.ofKeyed globals names keyed
  let resolved := ResolvedKeys.ofJoined globals joined
  let tables := joined.tables.map fun name t =>
    { t with fields := mergeColumns (joined.keys.get? name) (resolved.fields name) t.fields }
  let options := { s.options with
    primaryKeys := joined.keys
    constraints := resolved.constraints joined.constraints }
  { schema := { options, tables }
    names := resolved.names
    notes := keyed.notes ++ joined.notes ++ resolved.notes }

end SchemaDdl
