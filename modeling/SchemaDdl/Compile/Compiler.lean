import SchemaDdl.Compile.Resolution
import SchemaDdl.Compile.Script

/-!
# Compiling

A compiler holds the defaults, the prefix of table names and the source of
constraint names. It resolves a schema and renders it; a schema that is
compiled already is only rendered, so compiling again changes nothing and draws
no name.
-/

namespace SchemaDdl

structure Compiler where
  defaults : Settings := {}
  tablePrefix : String := ""
  names : NameSource

structure Compilation where
  schema : Schema
  script : List Sql.Statement
  compiler : Compiler
  notes : List Note

def Compilation.statements (c : Compilation) : List String := c.script.map Sql.Statement.text

namespace Compiler

def withPrefix (c : Compiler) (tablePrefix : String) : Compiler := { c with tablePrefix }

def resolve (c : Compiler) (s : Schema) : Schema × Compiler × List Note :=
  let r := s.resolve c.defaults c.names
  (r.schema, { c with names := r.names }, r.notes)

def render (c : Compiler) (s : Schema) : List Sql.Statement := s.script c.defaults c.tablePrefix

def compile (c : Compiler) (s : Schema) : Except SchemaError Compilation :=
  if s.tables.isEmpty then .error .emptySchema
  else
    let (schema, compiler, resolved) :=
      if s.isCompiled then (s, c, [Note.alreadyCompiled]) else c.resolve s
    let script := compiler.render schema
    .ok
      { schema, script, compiler
        notes := resolved ++ schema.scriptNotes ++ [.compiled schema.tables.size script.length] }

def additions (c : Compiler) (s : Schema) : List Sql.Statement := s.additions c.defaults c.tablePrefix

def removals (c : Compiler) (s : Schema) : List Sql.Statement := s.removals c.defaults c.tablePrefix

end Compiler

end SchemaDdl
