import SchemaDdl.Document.Node
import SchemaDdl.Number.Layout

/-!
# Writing JSON

The compact form: no blanks, members in their order, every character of a text
as it is but for the quotation mark, the backslash and the controls. A number
with a fraction always shows that it has one.
-/

namespace SchemaDdl.Json

def numberLayout : NumberLayout where
  positional := some (-5, 15)
  wholeFraction := true
  mantissaFraction := false
  tie := .toEven

def hexDigits (width n : Nat) : List Char := (Nat.toDigits 16 n).leftpad width '0'

def escapedChar (c : Char) : List Char :=
  match c with
  | '"' => ['\\', '"']
  | '\\' => ['\\', '\\']
  | '\x08' => ['\\', 'b']
  | '\x0c' => ['\\', 'f']
  | '\n' => ['\\', 'n']
  | '\r' => ['\\', 'r']
  | '\t' => ['\\', 't']
  | c => if c.toNat < 0x20 then '\\' :: 'u' :: hexDigits 4 c.toNat else [c]

def quoted (s : String) : List Char := '"' :: s.toList.flatMap escapedChar ++ ['"']

mutual

def chars : Node → List Char
  | .null | .unreadable => "null".toList
  | .bool b => (if b then "true" else "false").toList
  | .int n => (toString n).toList
  | .float d => if d.isFinite then (numberLayout.text d).toList else "null".toList
  | .text s => quoted s
  | .list items => '[' :: itemChars items ++ [']']
  | .map entries => '\x7b' :: entryChars entries ++ ['\x7d']

def itemChars : List Node → List Char
  | [] => []
  | [n] => chars n
  | n :: m :: r => chars n ++ ',' :: itemChars (m :: r)

def entryChars : List (Key × Node) → List Char
  | [] => []
  | [(k, n)] => quoted k.name ++ ':' :: chars n
  | (k, n) :: e :: r => quoted k.name ++ ':' :: chars n ++ ',' :: entryChars (e :: r)

end

def write (n : Node) : String := .ofList (chars n)

end SchemaDdl.Json
