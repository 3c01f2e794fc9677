import SchemaDdl.Document.Node
import SchemaDdl.Document.Yaml.Folding
import SchemaDdl.Document.Yaml.Plain
import SchemaDdl.Number.Layout
import SchemaDdl.Text.Lines

/-!
# Writing YAML

Maps and lists are written as blocks, each level two spaces further in than its
key or dash. A text stands plain if that is safe, as a literal block if it has
lines, folded if it is long, and between quotation marks otherwise.

An empty map or list stands behind its key, unless the value before it was a
block: then it stands on a line of its own. The flag that `value` passes on says
whether a block has just ended; a text or number clears it and so does entering
a block.
-/

namespace SchemaDdl.Yaml

def numberLayout : NumberLayout where
  positional := some (-5, 15)
  wholeFraction := true
  mantissaFraction := true
  tie := .toEven

def upperHex (width n : Nat) : List Char :=
  ((Nat.toDigits 16 n).map Char.toUpper).leftpad width '0'

/-! ## Quoted keys and texts -/

def quotedKeyChar (c : Char) : List Char :=
  match c with
  | '\\' => ['\\', '\\']
  | '"' => ['\\', '"']
  | '\n' => ['\\', 'n']
  | '\r' => ['\\', 'r']
  | '\t' => ['\\', 't']
  | c => if Plain.isControl c then '\\' :: 'u' :: upperHex 4 c.toNat else [c]

/-- The letter that stands for a character behind a backslash. -/
def escapeLetter (c : Char) : Option Char :=
  match c.toNat with
  | 0x00 => some '0'
  | 0x07 => some 'a'
  | 0x08 => some 'b'
  | 0x09 => some 't'
  | 0x0a => some 'n'
  | 0x0b => some 'v'
  | 0x0c => some 'f'
  | 0x0d => some 'r'
  | 0x1b => some 'e'
  | 0x22 => some '"'
  | 0x5c => some '\\'
  | 0x85 => some 'N'
  | 0x2028 => some 'L'
  | 0x2029 => some 'P'
  | _ => none

def quotedTextChar (c : Char) : List Char :=
  match escapeLetter c with
  | some letter => ['\\', letter]
  | none =>
    if c.toNat = 0xfeff then '\\' :: 'u' :: upperHex 4 c.toNat
    else if Plain.isControl c then '\\' :: 'x' :: upperHex 2 c.toNat
    else [c]

def between (mark : Char) (cs : List Char) : List Char := mark :: cs ++ [mark]

def keyChars (s : String) : List Char :=
  if Plain.isKey s then s.toList else between '"' (s.toList.flatMap quotedKeyChar)

/-! ## Texts -/

def spaces (n : Nat) : List Char := List.replicate n ' '

/-- Lines indented alike, each with its end. -/
def indented (indent : Nat) (lines : List (List Char)) : List Char :=
  lines.flatMap fun l => spaces indent ++ l ++ ['\n']

/-- The form of a text on the line of its key. -/
def inlineText (s : String) : List Char :=
  if s = "." || s = "#" || s = "-" then between '\x27' s.toList
  else if Plain.isValue s then s.toList
  else between '"' (s.toList.flatMap quotedTextChar)

/-- How many line ends a text ends in, and how its literal block says so. -/
def blockMark : Nat → List Char
  | 0 => ['|', '-']
  | 1 => ['|']
  | _ => ['|', '+']

def literalBlock (indent : Nat) (content : List Char) (ends : Nat) : List Char :=
  blockMark ends ++ ['\n'] ++ indented indent (Text.pieces '\n' content) ++
    indented indent (List.replicate (ends - 1) [])

def foldedBlock (indent : Nat) (cs : List Char) : List Char :=
  ['>', '-', '\n'] ++ indented indent (Folding.lines cs)

def textChars (indent : Nat) (s : String) : List Char :=
  let cs := s.toList
  if cs.contains '\n' then
    let content := (cs.reverse.dropWhile (· = '\n')).reverse
    if Plain.isValue (.ofList (content.map fun c => if c = '\n' then ' ' else c)) then
      literalBlock indent content (cs.length - content.length)
    else inlineText s ++ ['\n']
  else if Plain.isValue s && Folding.width < s.utf8ByteSize then foldedBlock indent cs
  else inlineText s ++ ['\n']

/-! ## Values -/

def floatChars (d : Double) : List Char :=
  if d.isFinite then (numberLayout.text d).toList
  else if d.isNaN then ".nan".toList
  else if d.isNegative then "-.inf".toList
  else ".inf".toList

def emptyBlock (indent : Nat) (afterBlock : Bool) (marks : List Char) : List Char :=
  (if afterBlock then '\n' :: spaces indent else [' ']) ++ marks ++ ['\n']

mutual

/--
What stands behind a key or a dash, when the blocks below it are indented by
`indent`, and whether it ends in a block.
-/
def value (indent : Nat) (afterBlock : Bool) : Node → List Char × Bool
  | .null | .unreadable => (" null\n".toList, false)
  | .bool b => ((if b then " true\n" else " false\n").toList, false)
  | .int n => (' ' :: (toString n).toList ++ ['\n'], false)
  | .float d => (' ' :: floatChars d ++ ['\n'], false)
  | .text s => (' ' :: textChars indent s, false)
  | .list [] => (emptyBlock indent afterBlock ['[', ']'], false)
  | .list items => ('\n' :: itemLines indent false items, true)
  | .map [] => (emptyBlock indent afterBlock ['\x7b', '\x7d'], false)
  | .map entries => ('\n' :: entryLines indent false entries, true)

def itemLines (indent : Nat) (afterBlock : Bool) : List Node → List Char
  | [] => []
  | n :: r =>
    let (cs, afterBlock) := value (indent + 2) afterBlock n
    spaces indent ++ '-' :: cs ++ itemLines indent afterBlock r

def entryLines (indent : Nat) (afterBlock : Bool) : List (Key × Node) → List Char
  | [] => []
  | (k, n) :: r =>
    let (cs, afterBlock) := value (indent + 2) afterBlock n
    spaces indent ++ keyChars (k.name) ++ ':' :: cs ++ entryLines indent afterBlock r

end

/-- The document of a map with pairs; any other value stands on a line of its own. -/
def write : Node → String
  | .map (e :: r) => .ofList (entryLines 0 false (e :: r))
  | .list (n :: r) => .ofList (itemLines 0 false (n :: r))
  | n => .ofList ((value 0 false n).1.drop 1)

end SchemaDdl.Yaml
