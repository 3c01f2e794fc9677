import SchemaDdl.Naming
import SchemaDdl.Note

/-!
# Gateways to databases

A gateway is what statements are executed through. It is on one namespace at a
time, can be switched to another, and knows the prefix that the tables of its
namespace carry. Both operations may fail at any call, and either way there is a
gateway to go on with; nothing else about it is fixed.
-/

namespace SchemaDdl

/-- The answer of a gateway, and the gateway after it. -/
structure Reply (γ : Type) where
  result : Except DatabaseError Unit
  gateway : γ
  notes : List Note := []

class Gateway (γ : Type) where
  /-- The namespace that the gateway is on. -/
  current : γ → String
  tablePrefix : γ → String
  switch : γ → String → Reply γ
  execute : γ → String → Reply γ

/-- The name of a table in the database that the gateway is on. -/
def Gateway.tableName {γ : Type} [Gateway γ] (g : γ) (table : String) : String :=
  Naming.physical (Gateway.tablePrefix g) table

end SchemaDdl
