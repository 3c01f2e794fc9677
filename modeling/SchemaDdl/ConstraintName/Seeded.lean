import SchemaDdl.Compile.NameSource
import SchemaDdl.ConstraintName.Shuffle

/-!
# Random constraint names

A name is `FK_` and fifteen of the digits and letters, no two alike: the
alphabet is shuffled and cut off. The generator goes on from one name to the
next, so a seed fixes the whole sequence.
-/

namespace SchemaDdl.ConstraintName

def alphabet : List Char := "0123456789abcdefghijklmnopqrstuvwxyz".toList

def codeLength : Nat := 15

/-- The name that a shuffled alphabet spells. -/
def spell (shuffled : List Char) : String :=
  "FK_" ++ .ofList ((shuffled.take codeLength).map Char.toUpper)

def draw (g : Generator) : String × Generator :=
  let r := shuffle g alphabet
  (spell r.1, r.2)

/-- The generator after a number of names. -/
def generatorAfter : Generator → Nat → Generator
  | g, 0 => g
  | g, n + 1 => generatorAfter (draw g).2 n

def seeded (seed : UInt64) : NameSource where
  name k := (draw (generatorAfter (.ofSeed seed) k)).1

/-- The first names of a generator, one after another. -/
def names : Nat → Generator → List String
  | 0, _ => []
  | n + 1, g =>
    let r := draw g
    r.1 :: names n r.2

end SchemaDdl.ConstraintName
