import SchemaDdl.Compile.ForeignKeys
import SchemaDdl.Naming
import SchemaDdl.Sql.Statement

/-!
# The script of a compiled schema

Foreign key checks are off while tables are dropped and created, and the
constraints are added when all tables are there, so tables may refer to each
other in any way. A column whose type is not supported is left out of its table
with a warning.

A column is indexed if a foreign key of the table has its name, or if it is
unique; in a join table every column is. The indexes of foreign keys come
first, in the order of the columns, and each column has at most one.
-/

namespace SchemaDdl

open Sql

namespace Table

/-- The columns whose type is supported. -/
def columns (t : Table) : List Column :=
  t.fields.entries.filterMap fun e =>
    match TypedField.ofField e.2 with
    | .ok typed => some ⟨e.1, typed⟩
    | .error _ => none

def columnNotes (name : String) (t : Table) : List Note :=
  t.fields.entries.filterMap fun e =>
    match TypedField.ofField e.2 with
    | .ok _ => none
    | .error error => some (.skippedColumn name e.1 error)

end Table

def indexOf (c : Column) : Index := ⟨c.name, c.typed.field.isUnique⟩

/-- Whether a column is indexed for the sake of a relation. -/
def isRelationColumn (ts : Tables) (table : String) (t : Table) (column : String) : Bool :=
  t.isJoinTable || (ts.foreignKeys table).any fun e => e.2.column = column

def indexesOf (ts : Tables) (table : String) (t : Table) : List Index :=
  let related := t.columns.filter fun c => isRelationColumn ts table t c.name
  let unique := t.columns.filter fun c =>
    c.typed.field.isUnique && !isRelationColumn ts table t c.name
  (related ++ unique).map indexOf

namespace Schema

def keyColumns (s : Schema) (table : String) : List String :=
  match s.options.primaryKeys.get? table with
  | some columns => columns.keys
  | none => []

def tableLayout? (s : Schema) (table : String) (globals : Settings) (physicalName : String) :
    Option TableLayout :=
  (s.tables.get? table).map fun t =>
    { name := physicalName
      columns := t.columns
      indexes := indexesOf s.tables table t
      primaryKey := s.keyColumns table
      settings := t.options.onto globals }

def tableStatements (s : Schema) (globals : Settings) (tablePrefix table : String) :
    List Statement :=
  let physicalName := Naming.physical tablePrefix table
  match s.tableLayout? table globals physicalName with
  | none => []
  | some layout =>
    Statement.tableBanner physicalName ++ [.dropTable physicalName, .createTable layout]

def tableNotes (s : Schema) (table : String) : List Note :=
  match s.tables.get? table with
  | none => []
  | some t =>
    t.columnNotes table ++ if t.isJoinTable then [] else s.tables.oneSidedNotes table

end Schema

/-! ## Constraints -/

def clauseOf (tablePrefix : String) (c : Constraint) : ForeignKeyClause where
  name := c.name
  column := c.column
  referencedTable := Naming.physical tablePrefix c.referencedTable
  referencedColumn := c.referencedColumn
  onDelete := c.onDelete
  onUpdate := c.onUpdate

namespace ConstraintIndex

/-- The tables that have constraints. -/
def constrained (i : ConstraintIndex) : List (String × OrderedMap Constraint) :=
  i.entries.filter fun e => !e.2.isEmpty

def additions (i : ConstraintIndex) (on : Bool) (tablePrefix : String) : List Statement :=
  if on then
    i.constrained.flatMap fun e =>
      let physicalName := Naming.physical tablePrefix e.1
      Statement.constraintBanner physicalName ++
        [.addConstraints physicalName (e.2.values.map (clauseOf tablePrefix))]
  else []

def removals (i : ConstraintIndex) (on : Bool) (tablePrefix : String) : List Statement :=
  if on then
    i.constrained.map fun e =>
      .dropConstraints (Naming.physical tablePrefix e.1) (e.2.values.map Constraint.name)
  else []

end ConstraintIndex

/-! ## Scripts -/

namespace Schema

def additions (s : Schema) (defaults : Settings) (tablePrefix : String) : List Statement :=
  s.options.constraints.additions (s.globals defaults).constraints tablePrefix

def removals (s : Schema) (defaults : Settings) (tablePrefix : String) : List Statement :=
  s.options.constraints.removals (s.globals defaults).constraints tablePrefix

def script (s : Schema) (defaults : Settings) (tablePrefix : String) : List Statement :=
  [.foreignKeyChecks false] ++
    s.tables.keys.flatMap (s.tableStatements (s.globals defaults) tablePrefix) ++
    s.additions defaults tablePrefix ++
    [.foreignKeyChecks true]

def scriptNotes (s : Schema) : List Note := s.tables.keys.flatMap s.tableNotes

end Schema

end SchemaDdl
