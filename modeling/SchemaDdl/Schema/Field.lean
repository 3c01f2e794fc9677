import SchemaDdl.Schema.Value

/-!
# Fields

A field names its abstract type; everything else may be left out, and left out
is not the same as false. A boolean column is stored as a small number, so a
boolean field is always unsigned and never null and defaults to false unless it
says otherwise; `coerced` applies this and changes nothing when applied again.
-/

namespace SchemaDdl

structure Field where
  typeName : String
  length : Option Length := none
  nullable : Option Bool := none
  unsigned : Option Bool := none
  defaultValue : Option DefaultValue := none
  autoIncrement : Option Bool := none
  unique : Option Bool := none
deriving DecidableEq

namespace Field

def ofType (typeName : String) : Field := { typeName }

/-- The key column of a table that does not choose its own. -/
def standardKey : Field :=
  { typeName := "int", nullable := some false, unsigned := some true, autoIncrement := some true }

/-- The column of a moment that may not have come yet. -/
def timestamp : Field := { typeName := "datetime", nullable := some true }

def isAutoIncrement (f : Field) : Bool := f.autoIncrement.getD false

def isUnique (f : Field) : Bool := f.unique.getD false

def coerced (f : Field) : Field :=
  if f.typeName = "boolean" then
    { f with
      unsigned := some true
      nullable := some false
      defaultValue := some (f.defaultValue.getD (.bool false)) }
  else f

theorem coerced_coerced (f : Field) : f.coerced.coerced = f.coerced := by
  by_cases h : f.typeName = "boolean" <;> simp [coerced, h]

end Field

end SchemaDdl
