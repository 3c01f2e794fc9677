/-!
# Settings in three layers

Five settings hold for every table: whether it gets timestamp columns and
constraints, its character set, its collation and its engine. The project's
defaults set all of them, a schema may override some for all its tables, and a
table may override some for itself. An `Overrides` is a layer; putting it onto
`Settings` gives `Settings` again.
-/

namespace SchemaDdl

structure Settings where
  timestamps : Bool := true
  constraints : Bool := true
  charset : String := "utf8"
  collate : String := "utf8_general_ci"
  engine : String := "InnoDB"
deriving DecidableEq, Inhabited

structure Overrides where
  timestamps : Option Bool := none
  constraints : Option Bool := none
  charset : Option String := none
  collate : Option String := none
  engine : Option String := none
deriving DecidableEq, Inhabited

namespace Overrides

def onto (o : Overrides) (base : Settings) : Settings where
  timestamps := o.timestamps.getD base.timestamps
  constraints := o.constraints.getD base.constraints
  charset := o.charset.getD base.charset
  collate := o.collate.getD base.collate
  engine := o.engine.getD base.engine

/-- The layer that fixes every setting. -/
def ofSettings (s : Settings) : Overrides where
  timestamps := some s.timestamps
  constraints := some s.constraints
  charset := some s.charset
  collate := some s.collate
  engine := some s.engine

/-- What the layer leaves open is taken from the settings. -/
def fillFrom (o : Overrides) (s : Settings) : Overrides := ofSettings (o.onto s)

theorem fillFrom_onto (o : Overrides) (s t : Settings) : (o.fillFrom s).onto t = o.onto s := rfl

/-- A layer put onto itself says what it said before. -/
theorem onto_onto (o : Overrides) (s : Settings) : o.onto (o.onto s) = o.onto s := by
  have hgetD {α : Type} (x : Option α) (y : α) : x.getD (x.getD y) = x.getD y := by
    cases x with
    | none => rfl
    | some x => rfl
  simp only [onto, hgetD]

end Overrides

end SchemaDdl
