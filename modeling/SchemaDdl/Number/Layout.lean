import SchemaDdl.Number.Shortest

/-!
# How a number is laid out

The digits of a double are settled by `Double.shortest`; what remains are
choices that differ from one written form to another: where the point goes
without an exponent, whether a whole number keeps a fraction, what an exponent
looks like. Each form is one `NumberLayout`, defined where that form is
written.
-/

namespace SchemaDdl

structure NumberLayout where
  /-- Decimal exponents that are written without an exponent, from the first to the second. -/
  positional : Option (Int × Int)
  /-- A whole number written without an exponent ends in a point and a zero. -/
  wholeFraction : Bool
  /-- A single digit before an exponent is followed by a point and a zero. -/
  mantissaFraction : Bool
  tie : Double.Tie

namespace NumberLayout

def zeros (n : Nat) : List Char := List.replicate n '0'

/-- Digits with the point set among them, `point` digits standing before it. -/
def positionalText (wholeFraction : Bool) (digits : List Char) (point : Int) : List Char :=
  if point ≤ 0 then '0' :: '.' :: zeros (-point).toNat ++ digits
  else
    let n := point.toNat
    if digits.length ≤ n then
      digits ++ zeros (n - digits.length) ++ if wholeFraction then ['.', '0'] else []
    else digits.take n ++ '.' :: digits.drop n

def exponentText (mantissaFraction : Bool) (digits : List Char) (exponent : Int) : List Char :=
  let mantissa := match digits with
    | [] => ['0']
    | [d] => if mantissaFraction then [d, '.', '0'] else [d]
    | d :: rest => d :: '.' :: rest
  mantissa ++ 'e' :: (if exponent < 0 then '-' else '+') :: Nat.toDigits 10 exponent.natAbs

def magnitudeText (l : NumberLayout) (d : Double) : List Char :=
  if d.significand = 0 then if l.wholeFraction then ['0', '.', '0'] else ['0']
  else
    let s := d.shortest l.tie
    let e := s.point - 1
    let plain := match l.positional with
      | none => true
      | some (low, high) => low ≤ e && e ≤ high
    if plain then positionalText l.wholeFraction s.digits s.point
    else exponentText l.mantissaFraction s.digits e

def text (l : NumberLayout) (d : Double) : String :=
  .ofList ((if d.isNegative then ['-'] else []) ++ l.magnitudeText d)

end NumberLayout

end SchemaDdl
