import SchemaDdl.Number.Double

/-!
# The fewest digits that read back

Between a double and its two neighbours lie two midpoints, and every real
between them rounds to the double (the midpoints themselves do when the
significand is even). A decimal with `n` digits reads back when it lies in that
interval, and if any does then one of the two that enclose the double does.
Trying `n = 1, 2, …` therefore finds the fewest digits, and of two hits the
nearer is taken. Where both are equally near, the caller says which way to go.

All of it is arithmetic on naturals: the interval is kept as three numerators
over one denominator.
-/

namespace SchemaDdl.Double

/-- Which of two equally near decimals is taken. -/
inductive Tie where
  | toEven
  | up
deriving DecidableEq

/-- A decimal `0.d₁d₂… · 10^point`, its digits without a last zero. -/
structure Digits where
  digits : List Char
  point : Int
deriving DecidableEq

/-- The reals that round to a double, as numerators over `den`. -/
structure Interval where
  low : Nat
  value : Nat
  high : Nat
  den : Nat
  closed : Bool

def interval (d : Double) : Interval :=
  let m := d.significand
  let below := if d.fraction = 0 ∧ 1 < d.field then 1 else 2
  let k := d.scale - 2
  let unit := if k < 0 then 1 else 1 <<< k.toNat
  { low := (4 * m - below) * unit
    value := 4 * m * unit
    high := (4 * m + 2) * unit
    den := if k < 0 then 1 <<< (-k).toNat else 1
    closed := m % 2 = 0 }

/-- Whether `n / d` rounds to the double of the interval. -/
def Interval.holds (i : Interval) (n d : Nat) : Bool :=
  if i.closed then i.low * d ≤ n * i.den && n * i.den ≤ i.high * d
  else i.low * d < n * i.den && n * i.den < i.high * d

/-- How often `num` can be multiplied by ten and stay below `den`. -/
def zerosAfterPoint (den : Nat) : Nat → Nat → Nat
  | 0, _ => 0
  | fuel + 1, num => if den ≤ num * 10 then 0 else zerosAfterPoint den fuel (num * 10) + 1

/-- The number of digits before the point of `num / den`, zero or less for a value below one. -/
def pointOf (num den : Nat) : Int :=
  if den ≤ num then (Nat.toDigits 10 (num / den)).length
  else -(zerosAfterPoint den den.log2 num : Int)

/-- The decimal of `n` digits that reads back and is nearest, if there is one. -/
def atLength (tie : Tie) (i : Interval) (point : Int) (n : Nat) : Option Nat :=
  let e := point - n
  let up := if e < 0 then 1 else Nat.pow 10 e.toNat
  let down := if e < 0 then Nat.pow 10 (-e).toNat else 1
  let floor := i.value * down / (i.den * up)
  let low := i.holds (floor * up) down
  let high := i.holds ((floor + 1) * up) down
  let twice := 2 * (i.value * down)
  let middle := (2 * floor + 1) * (i.den * up)
  if low && high then
    if twice < middle then some floor
    else if middle < twice then some (floor + 1)
    else match tie with
      | .toEven => some (floor + floor % 2)
      | .up => some (floor + 1)
  else if low then some floor
  else if high then some (floor + 1)
  else none

def trimZeros (cs : List Char) : List Char := (cs.reverse.dropWhile (· = '0')).reverse

/-- The digits of a finite double other than zero. -/
def shortest (tie : Tie) (d : Double) : Digits :=
  let i := d.interval
  let point := pointOf i.value i.den
  let found := (List.range 17).findSome? fun n => (atLength tie i point (n + 1)).map (n + 1, ·)
  match found with
  | none => ⟨[], point⟩
  | some (n, value) =>
    let cs := Nat.toDigits 10 value
    ⟨trimZeros cs, point + (cs.length - n)⟩

end SchemaDdl.Double
