/-!
# What can be wrong with a schema

Only one of these stops a compilation: a schema without tables. All others
concern one table, field or relation, which is left out while the rest goes on.
-/

namespace SchemaDdl

inductive SchemaError where
  | unsupportedType (typeName : String) (field : Option String)
  | notATable (table : String)
  | missingPrimaryKey (table : String)
  | invalidIdentifier (name reason : String)
  | missingReciprocal (table other : String)
  | ambiguousReference (table other : String)
  | emptySchema
deriving DecidableEq

def SchemaError.message : SchemaError → String
  | unsupportedType typeName field =>
    "Unsupported field type '" ++ typeName ++ "'" ++
      (match field with
      | none => ""
      | some f => " (field: " ++ f ++ ")")
  | notATable table => "Table '" ++ table ++ "' is not defined in the schema"
  | missingPrimaryKey table => "Table '" ++ table ++ "' has no primary key to reference"
  | invalidIdentifier name reason => "Invalid identifier '" ++ name ++ "': " ++ reason
  | missingReciprocal table other =>
    "Many-to-many relation '" ++ table ++ "' -> '" ++ other ++ "' is not declared on '" ++ other ++ "'"
  | ambiguousReference table other =>
    "Relation '" ++ table ++ "' -> '" ++ other ++ "' has no matching '1:m' entry on '" ++ other ++ "'"
  | emptySchema => "Schema has no table definitions"

end SchemaDdl
