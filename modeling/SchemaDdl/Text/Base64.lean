import SchemaDdl.Text.Blank

/-!
# Bytes in base 64

Three bytes are written as four characters that stand for six bits each. One or
two bytes may be left at the end; they are written as two or three characters
and filled up with equals signs, and the bits behind the last byte are zero. So
bytes are written in one way only, apart from white space, which may stand
anywhere.
-/

namespace SchemaDdl.Text

/-- The six bits that a character stands for. -/
def sextet? (c : Char) : Option Nat :=
  if c.isUpper then some (c.toNat - 'A'.toNat)
  else if c.isLower then some (c.toNat - 'a'.toNat + 26)
  else if c.isDigit then some (c.toNat - '0'.toNat + 52)
  else if c = '+' then some 62
  else if c = '/' then some 63
  else none

/-- The first `n` bytes of 24 bits. -/
def leadingBytes (n bits : Nat) : List UInt8 :=
  [UInt8.ofNat (bits / 65536), UInt8.ofNat (bits / 256), UInt8.ofNat bits].take n

/-- The bytes of characters that only such bytes are written as. -/
def bytesOf64? : List Char → Option (List UInt8)
  | [] => some []
  | [a, b, '=', '='] => do
    let bits := ((← sextet? a) * 64 + (← sextet? b)) * 4096
    if bits % 65536 = 0 then some (leadingBytes 1 bits) else none
  | [a, b, c, '='] => do
    let bits := (((← sextet? a) * 64 + (← sextet? b)) * 64 + (← sextet? c)) * 64
    if bits % 256 = 0 then some (leadingBytes 2 bits) else none
  | a :: b :: c :: d :: r => do
    let bits := (((← sextet? a) * 64 + (← sextet? b)) * 64 + (← sextet? c)) * 64 + (← sextet? d)
    return leadingBytes 3 bits ++ (← bytesOf64? r)
  | _ => none

/-- The text whose bytes are written so. -/
def ofBase64? (s : String) : Option String := do
  let bytes ← bytesOf64? (s.toList.filter fun c => !isBlank c)
  String.fromUTF8? ⟨bytes.toArray⟩

end SchemaDdl.Text
