/-!
# Where constraint names come from

A constraint gets a name that says nothing, so that it never collides with a
name that someone chose. A source of names is a sequence, and how far it has
been used up: drawing takes the next name and moves on. Nothing else of a
source is ever looked at, so a random sequence and a counting one compile in
the same way.
-/

namespace SchemaDdl

structure NameSource where
  name : Nat → String
  drawn : Nat := 0

namespace NameSource

def next (s : NameSource) : String × NameSource := (s.name s.drawn, { s with drawn := s.drawn + 1 })

/-- Names that count the draws, in fifteen digits from one. -/
def counting : NameSource where
  name k := "FK_" ++ .ofList ((Nat.toDigits 10 (k + 1)).leftpad 15 '0')

end NameSource

end SchemaDdl
