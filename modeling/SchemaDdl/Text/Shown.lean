import SchemaDdl.Text.Printable

/-!
# Texts quoted in messages

A message that names a file, a namespace or a list of keys shows each between
double quotes, so that blanks and line ends in it can be seen. The marks, the
backslash and the usual controls are escaped by name and every other
unprintable character by its number.
-/

namespace SchemaDdl.Text

def shownChar (c : Char) : List Char :=
  match c with
  | '\x00' => ['\\', '0']
  | '\t' => ['\\', 't']
  | '\r' => ['\\', 'r']
  | '\n' => ['\\', 'n']
  | '"' => ['\\', '"']
  | '\\' => ['\\', '\\']
  | c =>
    if isPrintable c then [c]
    else "\\u\x7b".toList ++ Nat.toDigits 16 c.toNat ++ ['\x7d']

def shown (s : String) : String := .ofList ('"' :: s.toList.flatMap shownChar ++ ['"'])

def shownList (l : List String) : String :=
  "[" ++ String.intercalate ", " (l.map shown) ++ "]"

def shownOption : Option String → String
  | none => "None"
  | some s => "Some(" ++ shown s ++ ")"

end SchemaDdl.Text
