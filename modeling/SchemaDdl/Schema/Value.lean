import SchemaDdl.Number.Double
import SchemaDdl.Text.Blank

/-!
# Lengths and default values

The two members of a field whose value may be of several kinds. A length is a
number, a pair of numbers for a decimal, or a text; a text may itself spell a
number, and `Length.asSize` is the one place that decides so.
-/

namespace SchemaDdl

inductive Length where
  | size (n : UInt32)
  | precision (digits scale : UInt32)
  | modifier (word : String)
deriving DecidableEq

inductive DefaultValue where
  | bool (b : Bool)
  | integer (n : Int64)
  | float (d : Double)
  | text (s : String)
deriving DecidableEq

namespace Length

def sizeLimit : Nat := UInt32.size

/-- The number that ASCII digits denote, `none` for no digits or for another character. -/
def digitsValue (cs : List Char) : Option Nat :=
  if cs.isEmpty || cs.any fun c => !c.isDigit then none
  else some (cs.foldl (fun n c => n * 10 + (c.toNat - '0'.toNat)) 0)

/-- White space around the number is passed over, and it may have a plus sign. -/
def sizeOfText (s : String) : Option UInt32 := do
  let digits := match Text.trim s.toList with
    | '+' :: r => r
    | cs => cs
  let n ← digitsValue digits
  if n < sizeLimit then some (.ofNat n) else none

def asSize : Length → Option UInt32
  | size n => some n
  | modifier word => sizeOfText word
  | precision _ _ => none

end Length

end SchemaDdl
