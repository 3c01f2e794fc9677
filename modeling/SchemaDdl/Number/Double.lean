/-!
# Doubles as bit patterns

A default value may be a number with a fraction. What the program does with it
is to read it, to compare it and to write it, never to calculate, so the bits
are the value: two doubles are equal when their bits are, which keeps `-0.0`
apart from `0.0`. Nothing here depends on the machine's own arithmetic.

A finite double is `m · 2^k` with `m < 2^53`. `ofRatio` rounds any quotient of
naturals to the nearest of them, halves to the even neighbour, by exact
arithmetic.
-/

namespace SchemaDdl

structure Double where
  bits : UInt64
deriving DecidableEq, Inhabited

namespace Double

def isNegative (d : Double) : Bool := d.bits.toNat >>> 63 = 1

/-- The exponent field. -/
def field (d : Double) : Nat := (d.bits.toNat >>> 52) % 2048

def fraction (d : Double) : Nat := d.bits.toNat % (1 <<< 52)

def isNaN (d : Double) : Bool := d.field = 2047 && d.fraction ≠ 0

def isInfinite (d : Double) : Bool := d.field = 2047 && d.fraction = 0

def isFinite (d : Double) : Bool := d.field ≠ 2047

/-- The magnitude of a finite double is `significand · 2^scale`. -/
def significand (d : Double) : Nat :=
  if d.field = 0 then d.fraction else 1 <<< 52 + d.fraction

def scale (d : Double) : Int :=
  if d.field = 0 then -1074 else (d.field : Int) - 1075

/-- The double of a sign and the 63 bits of a magnitude; magnitudes past the largest are infinite. -/
def ofMagnitude (negative : Bool) (magnitude : Nat) : Double :=
  ⟨.ofNat (min magnitude (2047 <<< 52) + if negative then 1 <<< 63 else 0)⟩

def infinity (negative : Bool) : Double := ofMagnitude negative (2047 <<< 52)

def nan : Double := ⟨0x7ff8000000000000⟩

/-- A quotient rounded to the nearest natural, a half to the even neighbour. -/
def roundHalfEven (num den : Nat) : Nat :=
  let q := num / den
  let r := num % den
  if 2 * r < den then q else if den < 2 * r then q + 1 else q + q % 2

/--
The nearest double to `num / den`. The scale is chosen so that the quotient has
53 bits, or is the least scale there is; a significand that rounds up to `2^53`
carries into the exponent field by itself.
-/
def ofRatio (negative : Bool) (num den : Nat) : Double :=
  if num = 0 then ofMagnitude negative 0 else
    let scaled (k : Int) : Nat × Nat :=
      if k < 0 then (num <<< (-k).toNat, den) else (num, den <<< k.toNat)
    let guess : Int := max ((num.log2 : Int) - den.log2 - 53) (-1074)
    let k := if (scaled guess).1 / (scaled guess).2 < 1 <<< 53 then guess else guess + 1
    let m := roundHalfEven (scaled k).1 (scaled k).2
    if m < 1 <<< 52 then ofMagnitude negative m
    else ofMagnitude negative ((k + 1075).toNat <<< 52 + (m - 1 <<< 52))

/--
The nearest double to `digits · 10^exponent`. Far outside the range of doubles
the answer is known without building the power.
-/
def ofDecimal (negative : Bool) (digits : Nat) (exponent : Int) : Double :=
  let size : Int := (Nat.toDigits 10 digits).length + exponent
  if digits = 0 ∨ size < -400 then ofMagnitude negative 0
  else if 400 < size then infinity negative
  else if exponent < 0 then ofRatio negative digits (Nat.pow 10 (-exponent).toNat)
  else ofRatio negative (digits * Nat.pow 10 exponent.toNat) 1

/-- A finite magnitude as a quotient. -/
def ratio (d : Double) : Nat × Nat :=
  if d.scale < 0 then (d.significand, 1 <<< (-d.scale).toNat)
  else (d.significand <<< d.scale.toNat, 1)

/-- The nearest double to the product of two finite magnitudes. -/
def mulMagnitude (a b : Double) : Double :=
  ofRatio false (a.ratio.1 * b.ratio.1) (a.ratio.2 * b.ratio.2)

/-- The nearest double to the quotient of two finite magnitudes. -/
def divMagnitude (a b : Double) : Double :=
  ofRatio false (a.ratio.1 * b.ratio.2) (a.ratio.2 * b.ratio.1)

def withSign (negative : Bool) (d : Double) : Double :=
  ofMagnitude negative (d.bits.toNat % (1 <<< 63))

def ofInt (n : Int) : Double := ofRatio (n < 0) n.natAbs 1

end Double

end SchemaDdl
