import SchemaDdl.Schema.Value

/-!
# Relations and constraints

A relation is written beside the table it leads to, with most of it left out.
`Relation.resolve` fills in what a foreign key needs: the column is named after
the referenced table unless the relation names it.

What happens to a row whose referenced row is deleted has three spellings,
true, null and false, and leaving it out means false.
-/

namespace SchemaDdl

inductive ReferentialAction where
  | cascade
  | setNull
  | restrict
  | noAction
deriving DecidableEq

def ReferentialAction.text : ReferentialAction → String
  | cascade => "CASCADE"
  | setNull => "SET NULL"
  | restrict => "RESTRICT"
  | noAction => "NO ACTION"

def ReferentialAction.ofText? : String → Option ReferentialAction
  | "CASCADE" => some .cascade
  | "SET NULL" => some .setNull
  | "RESTRICT" => some .restrict
  | "NO ACTION" => some .noAction
  | _ => none

inductive Cascade where
  | cascade
  | setNull
  | restrict
deriving DecidableEq

def Cascade.onDelete : Cascade → ReferentialAction
  | cascade => .cascade
  | setNull => .setNull
  | restrict => .restrict

structure Relation where
  column : Option String := none
  unique : Option Bool := none
  defaultValue : Option DefaultValue := none
  cascade : Cascade := .restrict
  joinTable : Option String := none
deriving DecidableEq

/-- A relation with everything settled that a foreign key column depends on. -/
structure ForeignKey where
  column : String
  unique : Bool
  defaultValue : Option DefaultValue
  cascade : Cascade
deriving DecidableEq

def Relation.resolve (r : Relation) (referenced : String) : ForeignKey where
  column := r.column.getD (referenced ++ "_id")
  unique := r.unique.getD false
  defaultValue := r.defaultValue
  cascade := r.cascade

structure Constraint where
  name : String
  column : String
  referencedTable : String
  referencedColumn : String
  onDelete : ReferentialAction
  onUpdate : ReferentialAction
deriving DecidableEq

end SchemaDdl
