import SchemaDdl.ConstraintName.Generator

/-!
# Shuffling

Each element in turn is swapped with one that stands no later. Where it goes is
drawn for several elements at once: a draw below `n · (n + 1) · … ` is taken
apart by division, as long as the product fits a word. Every step is a swap, so
a shuffle is a permutation whatever is drawn.
-/

namespace SchemaDdl.ConstraintName

/-- Choices that are still to be taken out of the last draw. -/
structure Chunk where
  value : Nat := 0
  left : Nat := 1

/-- The product of the factors from `bound` on that fits a word, and the factor it stops at. -/
def chunkBound : Nat → Nat → Nat → Nat × Nat
  | 0, bound, factor => (bound, factor)
  | fuel + 1, bound, factor =>
    if bound * factor < UInt32.size then chunkBound fuel (bound * factor) (factor + 1)
    else (bound, factor)

/-- A place below `n`. The last choice of a chunk is what is left of it. -/
def Chunk.draw (n : Nat) (c : Chunk) (g : Generator) : Nat × Chunk × Generator :=
  let (c, g) :=
    if c.left = 0 then
      let (bound, factor) := chunkBound 32 n (n + 1)
      let (value, g) := g.below bound
      ({ value, left := factor - n - 1 : Chunk }, g)
    else ({ c with left := c.left - 1 }, g)
  if c.left = 0 then (c.value, c, g)
  else (c.value % n, { c with value := c.value / n }, g)

/-- The list with the elements of two places exchanged, or as it was if a place is outside. -/
def swap {α : Type} (i j : Nat) (l : List α) : List α :=
  match l[i]?, l[j]? with
  | some x, some y => (l.set i y).set j x
  | _, _ => l

def shuffleFrom {α : Type} : List Nat → Chunk → Generator → List α → List α × Generator
  | [], _, g, l => (l, g)
  | i :: r, c, g, l =>
    let (j, c, g) := c.draw (i + 1) g
    shuffleFrom r c g (swap i j l)

def shuffle {α : Type} (g : Generator) (l : List α) : List α × Generator :=
  shuffleFrom (List.range l.length) {} g l

end SchemaDdl.ConstraintName
