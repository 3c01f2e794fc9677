import SchemaDdl.Compile.ForeignKeys
import SchemaDdl.Compile.PrimaryKeys
import SchemaDdl.Naming

/-!
# Join tables

A many-to-many relation that both tables declare becomes a table of its own. It
has a column for each side, both together are its key, and each refers to its
side. Its name is the one that either side gives, the declaring side first, or
is made of the two tables' names.

The declarations are taken in order, and both directions of a pair are among
them, so whatever would stand for the pair already, a table under a made name
in either direction or one under the chosen name, keeps a second one from being
made. A side without a key column gives the whole table up; a name drawn for
the first side stays drawn.
-/

namespace SchemaDdl

structure ManyToMany where
  table : String
  other : String
  relation : Relation

def Tables.manyToMany (ts : Tables) : List ManyToMany :=
  ts.entries.flatMap fun e => e.2.manyToMany.entries.map fun r => ⟨e.1, r.1, r.2⟩

/-- The name that a relation gives its join table; an empty one is none. -/
def Relation.givenJoinTable (r : Relation) : Option String := r.joinTable.filter (· ≠ "")

def joinTableName (d : ManyToMany) (reciprocal : Relation) : String :=
  (d.relation.givenJoinTable <|> reciprocal.givenJoinTable).getD (Naming.joinTable d.table d.other)

/-- The columns of a join table while they are gathered; the key has the same columns. -/
structure JoinColumns where
  primaryKey : List String := []
  fields : OrderedMap Field := {}
  constraints : OrderedMap Constraint := {}
  names : NameSource

namespace JoinColumns

/-- The column and the constraint of one side. -/
def addSide (keys : KeyIndex) (withConstraints : Bool) (c : JoinColumns)
    (side : String × Relation) : Except (SchemaError × NameSource) JoinColumns :=
  let fk := side.2.resolve side.1
  match keys.referenced side.1 fk with
  | .error e => .error (e, c.names)
  | .ok (column, key) =>
    let field := { fk.columnField key with nullable := some false }
    let c := { c with
      primaryKey := c.primaryKey ++ [fk.column]
      fields := c.fields.insert fk.column field }
    if withConstraints then
      let (name, names) := c.names.next
      .ok { c with
        constraints := c.constraints.insert fk.column (fk.constraint name side.1 column)
        names }
    else .ok c

def ofSides (keys : KeyIndex) (withConstraints : Bool) (names : NameSource)
    (sides : List (String × Relation)) : Except (SchemaError × NameSource) JoinColumns :=
  sides.foldlM (addSide keys withConstraints) { names }

def table (globals : Settings) (c : JoinColumns) : Table where
  options :=
    { primaryKey := some c.primaryKey
      settings := { timestamps := some false : Overrides }.fillFrom globals
      joinTable := some true }
  fields := c.fields

end JoinColumns

/-- Tables, keys and constraints with the join tables made so far. -/
structure JoinedTables where
  tables : Tables
  keys : KeyIndex
  constraints : ConstraintIndex := {}
  names : NameSource
  notes : List Note := []

namespace JoinedTables

def isMade (j : JoinedTables) (table other : String) : Bool :=
  j.tables.contains (Naming.joinTable table other) || j.tables.contains (Naming.joinTable other table)

def reciprocal? (j : JoinedTables) (d : ManyToMany) : Option Relation :=
  j.tables.get? d.other >>= fun t => t.manyToMany.get? d.table

def note (j : JoinedTables) (n : Note) : JoinedTables := { j with notes := j.notes ++ [n] }

/-- A join table under a name that is free. -/
def make (globals : Settings) (j : JoinedTables) (d : ManyToMany) (reciprocal : Relation)
    (name : String) : JoinedTables :=
  match JoinColumns.ofSides j.keys globals.constraints j.names
      [(d.table, d.relation), (d.other, reciprocal)] with
  | .error (e, names) => { j with names }.note (.skippedJoinTable name e)
  | .ok c =>
    { tables := j.tables.insert name (c.table globals)
      keys := j.keys.insert name c.fields
      constraints :=
        if c.constraints.isEmpty then j.constraints else j.constraints.insert name c.constraints
      names := c.names
      notes := j.notes ++ [.joinTable name d.table d.other] }

def add (globals : Settings) (j : JoinedTables) (d : ManyToMany) : JoinedTables :=
  if j.isMade d.table d.other then j
  else match j.reciprocal? d with
    | none => j.note (.skippedManyToMany (.missingReciprocal d.table d.other))
    | some reciprocal =>
      let name := joinTableName d reciprocal
      if j.tables.contains name then j else j.make globals d reciprocal name

def ofKeyed (globals : Settings) (names : NameSource) (k : KeyedTables) : JoinedTables :=
  k.tables.manyToMany.foldl (add globals) { tables := k.tables, keys := k.keys, names }

end JoinedTables

end SchemaDdl
