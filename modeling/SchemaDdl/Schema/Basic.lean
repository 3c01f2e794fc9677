import SchemaDdl.Schema.Table

/-!
# Schemas

A schema is its tables and the options that hold for all of them. Compiling
stores what it found out among the options: the key columns of each table and
the constraints. A schema with key columns stored is a compiled one, and only
of a compiled schema do the questions below have an answer other than no.
-/

namespace SchemaDdl

structure SchemaOptions where
  settings : Overrides := {}
  primaryKeys : KeyIndex := {}
  constraints : ConstraintIndex := {}
deriving DecidableEq, Inhabited

structure Schema where
  options : SchemaOptions := {}
  tables : Tables := {}
deriving DecidableEq, Inhabited

namespace Schema

def globals (s : Schema) (defaults : Settings) : Settings := s.options.settings.onto defaults

def addTable (s : Schema) (name : String) (t : Table) : Schema :=
  { s with tables := s.tables.insert name t }

def isCompiled (s : Schema) : Bool := !s.options.primaryKeys.isEmpty

def hasTable (s : Schema) (table : String) : Bool := s.isCompiled && s.tables.contains table

def field? (s : Schema) (table field : String) : Option Field :=
  s.tables.get? table >>= fun t => t.fields.get? field

def hasField (s : Schema) (table field : String) : Bool :=
  s.isCompiled && (s.field? table field).isSome

def hasTimestamps (s : Schema) (table : String) : Bool :=
  s.isCompiled && (s.tables.get? table).any fun t => t.options.settings.timestamps = some true

def hasSlug (s : Schema) (table : String) : Bool := s.hasField table "slug"

def fieldType? (s : Schema) (table field : String) : Option String :=
  if s.isCompiled then (s.field? table field).map Field.typeName else none

end Schema

end SchemaDdl
