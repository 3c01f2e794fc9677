import SchemaDdl.OrderedMap
import SchemaDdl.Schema.Field
import SchemaDdl.Schema.Relation
import SchemaDdl.Schema.Settings

/-!
# Tables

A table holds its fields and four kinds of relations. `manyToOne` only names
the referenced tables, because the relation itself is written at the other end,
under `oneToMany`. The join table of a many-to-many relation carries a mark of
its own among its options.
-/

namespace SchemaDdl

structure TableOptions where
  primaryKey : Option (List String) := none
  settings : Overrides := {}
  joinTable : Option Bool := none
deriving DecidableEq, Inhabited

namespace TableOptions

def isEmpty (o : TableOptions) : Bool := o = {}

def onto (o : TableOptions) (base : Settings) : Settings := o.settings.onto base

/-- The key and the mark of a join table stay as they are. -/
def fillFrom (o : TableOptions) (s : Settings) : TableOptions :=
  { o with settings := o.settings.fillFrom s }

end TableOptions

structure Table where
  options : TableOptions := {}
  manyToOne : List String := []
  oneToMany : OrderedMap Relation := {}
  oneToOne : OrderedMap Relation := {}
  manyToMany : OrderedMap Relation := {}
  fields : OrderedMap Field := {}
deriving DecidableEq, Inhabited

namespace Table

def isJoinTable (t : Table) : Bool := t.options.joinTable = some true

def withField (t : Table) (name : String) (f : Field) : Table :=
  { t with fields := t.fields.insert name f }

def belongsTo (t : Table) (other : String) : Table :=
  { t with manyToOne := t.manyToOne ++ [other] }

def hasMany (t : Table) (other : String) (r : Relation) : Table :=
  { t with oneToMany := t.oneToMany.insert other r }

def hasOne (t : Table) (other : String) (r : Relation) : Table :=
  { t with oneToOne := t.oneToOne.insert other r }

def hasManyToMany (t : Table) (other : String) (r : Relation) : Table :=
  { t with manyToMany := t.manyToMany.insert other r }

end Table

abbrev Tables := OrderedMap Table

/-- The key columns of every table. -/
abbrev KeyIndex := OrderedMap (OrderedMap Field)

/-- The constraints of every table that has some, by column. -/
abbrev ConstraintIndex := OrderedMap (OrderedMap Constraint)

end SchemaDdl
