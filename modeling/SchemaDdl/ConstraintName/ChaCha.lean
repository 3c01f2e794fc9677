/-!
# The ChaCha stream

A ChaCha block is sixteen words: four constants, the eight words of the key, a
block counter of two words and two words of zero. Six double rounds mix the
block and the block is added to the result. The blocks for the counters 0, 1, …
in a row are the stream that random words are taken from.
-/

namespace SchemaDdl.ChaCha

abbrev Block := Vector UInt32 16

def rotateLeft (x : UInt32) (n : UInt32) : UInt32 := (x <<< n) ||| (x >>> (32 - n))

def quarter (a b c d : Fin 16) (s : Block) : Block :=
  let s := s.set a (s[a] + s[b])
  let s := s.set d (rotateLeft (s[d] ^^^ s[a]) 16)
  let s := s.set c (s[c] + s[d])
  let s := s.set b (rotateLeft (s[b] ^^^ s[c]) 12)
  let s := s.set a (s[a] + s[b])
  let s := s.set d (rotateLeft (s[d] ^^^ s[a]) 8)
  let s := s.set c (s[c] + s[d])
  s.set b (rotateLeft (s[b] ^^^ s[c]) 7)

def columnRound (s : Block) : Block :=
  quarter 3 7 11 15 (quarter 2 6 10 14 (quarter 1 5 9 13 (quarter 0 4 8 12 s)))

def diagonalRound (s : Block) : Block :=
  quarter 3 4 9 14 (quarter 2 7 8 13 (quarter 1 6 11 12 (quarter 0 5 10 15 s)))

def doubleRounds : Nat → Block → Block
  | 0, s => s
  | n + 1, s => doubleRounds n (diagonalRound (columnRound s))

abbrev Seed := Vector UInt32 8

def start (key : Seed) (counter : UInt64) : Block :=
  #v[0x61707865, 0x3320646e, 0x79622d32, 0x6b206574,
     key[0], key[1], key[2], key[3], key[4], key[5], key[6], key[7],
     counter.toUInt32, (counter >>> 32).toUInt32, 0, 0]

/-- The block of a counter after twelve rounds. -/
def block (key : Seed) (counter : UInt64) : Block :=
  let s := start key counter
  (doubleRounds 6 s).zipWith (· + ·) s

end SchemaDdl.ChaCha
