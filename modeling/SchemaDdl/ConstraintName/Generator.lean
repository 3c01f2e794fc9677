import SchemaDdl.ConstraintName.ChaCha

/-!
# Random words and bounded draws

A generator is a key and a place in its stream. The key is made from one word
by a linear congruential step for each of its words, with the high bits of the
state mixed into what is taken.

`below n` draws a number below `n`. The product of a random word and `n` has
the number in its high word; what the low word would carry if the product were
longer is settled by one more random word, and only where it can matter.
-/

namespace SchemaDdl.ConstraintName

structure Generator where
  key : ChaCha.Seed
  place : Nat := 0

def congruentialStep (s : UInt64) : UInt64 := s * 6364136223846793005 + 11634580027462260723

def rotateRight (x n : UInt32) : UInt32 := (x >>> n) ||| (x <<< ((32 - n) % 32))

/-- The word that is taken from a state of the congruential sequence. -/
def mixedWord (s : UInt64) : UInt32 :=
  rotateRight (((s >>> 18) ^^^ s) >>> 27).toUInt32 (s >>> 59).toUInt32

def stateAfter (seed : UInt64) : Nat → UInt64
  | 0 => seed
  | n + 1 => congruentialStep (stateAfter seed n)

namespace Generator

def ofSeed (seed : UInt64) : Generator where
  key := .ofFn fun i => mixedWord (stateAfter seed (i + 1))

def word (g : Generator) : UInt32 × Generator :=
  let b := ChaCha.block g.key (.ofNat (g.place / 16))
  (b.get ⟨g.place % 16, Nat.mod_lt _ (by decide)⟩, { g with place := g.place + 1 })

def below (n : Nat) (g : Generator) : Nat × Generator :=
  let (w, g) := g.word
  let product := w.toNat * n
  let high := product / UInt32.size
  let low := product % UInt32.size
  if UInt32.size - n < low then
    let (w, g) := g.word
    let carry := w.toNat * n / UInt32.size
    (if UInt32.size ≤ low + carry then high + 1 else high, g)
  else (high, g)

end Generator

end SchemaDdl.ConstraintName
