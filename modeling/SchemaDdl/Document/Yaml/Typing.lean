import SchemaDdl.Document.Source
import SchemaDdl.Document.Yaml.Merge
import SchemaDdl.Document.Yaml.Stream
import SchemaDdl.Schema.Value
import SchemaDdl.Text.Base64

/-!
# What a YAML scalar means

Where the document alone decides, a plain scalar is nothing, a boolean, an
integer, a number with a fraction or a text, whichever it can be first; white
space around a word or a number does not count. A quoted scalar or a block is a
text. A number that is not finite stays a text with its usual name.

Where the reader expects something, the scalar's text is read as that: any
scalar but an empty one is a text, the words for true and false are booleans
whether they are quoted or not, and an empty scalar stands for an empty map. A
value with named members must then be a map.

A tag for nothing makes any scalar nothing, and a binary scalar is the text that
its bytes are. A tag for a type that is not a text keeps a scalar from being
one.
-/

namespace SchemaDdl.Yaml

/-! ## Words and numbers -/

def trueWords : List String := ["true", "yes", "y", "on"]

def falseWords : List String := ["false", "no", "n", "off"]

/-- The text without the white space around it. -/
def trimmed (s : String) : String := .ofList (Text.trim s.toList)

def flagOf (s : String) : Option Bool :=
  let word := Text.lowerAscii (trimmed s)
  if trueWords.contains word then some true
  else if falseWords.contains word then some false
  else none

/-- Digits of a base with underscores anywhere among them, at least one. -/
def digitsOf (base : Nat) (cs : List Char) : Option Nat :=
  let digits := cs.filter (· ≠ '_')
  if digits.isEmpty then none
  else do
    let values ← digits.mapM fun c => (hexValue c).filter (· < base)
    return values.foldl (fun n d => n * base + d) 0

def magnitudeOf : List Char → Option Nat
  | '0' :: 'x' :: r | '0' :: 'X' :: r => digitsOf 16 r
  | '0' :: 'o' :: r | '0' :: 'O' :: r => digitsOf 8 r
  | '0' :: 'b' :: r | '0' :: 'B' :: r => digitsOf 2 r
  | cs => digitsOf 10 cs

/-- An integer that fits a word with sign if it has a minus, and one without otherwise. -/
def integerOf (s : String) : Option Int :=
  match Text.trim s.toList with
  | '-' :: r => (magnitudeOf r).bind fun n => if n ≤ UInt64.size / 2 then some (-(n : Int)) else none
  | '+' :: r => (magnitudeOf r).bind fun n => if n < UInt64.size then some (n : Int) else none
  | cs => (magnitudeOf cs).bind fun n => if n < UInt64.size then some (n : Int) else none

def unsignedOf (s : String) : Option Int :=
  if (Text.trim s.toList).head? = some '-' then none else integerOf s

def decimalDigits (cs : List Char) : List Char × List Char :=
  (cs.takeWhile Char.isDigit, cs.dropWhile Char.isDigit)

/-- An exponent that ends the text, and zero for no exponent. -/
def exponentOf : List Char → Option Int
  | [] => some 0
  | c :: r =>
    if c = 'e' || c = 'E' then
      let (negative, r) : Bool × List Char := match r with
        | '-' :: r => (true, r)
        | '+' :: r => (false, r)
        | r => (false, r)
      (Length.digitsValue r).map fun n => if negative then -(n : Int) else n
    else none

def decimalOf (negative : Bool) (cs : List Char) : Option Double :=
  let (whole, r) := decimalDigits cs
  let (fraction, r) := match r with
    | '.' :: r => decimalDigits r
    | r => ([], r)
  if whole.isEmpty && fraction.isEmpty then none
  else do
    let n ← Length.digitsValue (whole ++ fraction)
    let e ← exponentOf r
    return .ofDecimal negative n (e - fraction.length)

def unsignedFloat (negative : Bool) (cs : List Char) : Option Double :=
  let word := Text.lowerAscii (.ofList cs)
  if [".inf", "inf", "infinity"].contains word then some (.infinity negative)
  else if [".nan", "nan"].contains word then some .nan
  else decimalOf negative cs

def floatOf (s : String) : Option Double :=
  match Text.trim s.toList with
  | '-' :: r => unsignedFloat true r
  | '+' :: r => unsignedFloat false r
  | cs => unsignedFloat false cs

def floatNode (d : Double) : Node :=
  if d.isFinite then .float d
  else if d.isNaN then .text ".nan"
  else .text (if d.isNegative then "-.inf" else ".inf")

/-! ## Scalars by the document's rules -/

namespace Scalar

/-- The text of a scalar that is a text. -/
def content (s : Scalar) : Except ReadError String :=
  match s.tag with
  | .typed => .error (.unexpected "a text")
  | .binary => match Text.ofBase64? s.text with
    | some text => .ok text
    | none => .error (.unexpected "bytes of a text")
  | _ => .ok s.text

/-- Whether the scalar looks like nothing. -/
def isNullWord (s : Scalar) : Bool := s.style = .plain && Tree.isNullWord s.text

/-- Whether the scalar is nothing. -/
def isNull (s : Scalar) : Bool := s.tag = .null || s.isNullWord

/-- Whether the scalar is a text whatever it looks like, or else cannot be read. -/
def isTextOnly (s : Scalar) : Bool :=
  s.style ≠ .plain || s.tag = .nonSpecific || s.tag = .typed || s.tag = .binary

def toNode (s : Scalar) : Except ReadError Node :=
  if s.isNull then .ok .null
  else if s.isTextOnly then do return .text (← s.content)
  else match flagOf s.text with
    | some b => .ok (.bool b)
    | none => match integerOf s.text with
      | some n => .ok (.int n)
      | none => match floatOf s.text with
        | some d => .ok (floatNode d)
        | none => .ok (.text s.text)

/-- Whether the scalar leaves an optional member unset; an empty block does. -/
def isUnset (s : Scalar) : Bool := s.isNull || (s.text = "" && s.style ≠ .quoted)

/-- What looks like nothing is a text only with the tag of one. -/
def expectedText (s : Scalar) : Except ReadError String :=
  if s.tag = .null || (s.isNullWord && s.tag ≠ .text) then .error (.unexpected "a text")
  else s.content

/-- The name of an alternative, unless the tag names a type that does not have it. -/
def choice (typeName : String) (s : Scalar) : Except ReadError String :=
  match s.tag with
  | .other (some name) =>
    if name = typeName then .ok s.text else .error (.unexpected "the name of an alternative")
  | _ => .ok s.text

end Scalar

namespace Tree

def keyOf : Node → Key
  | .text s => .text s
  | .int n => if 0 ≤ n then .place n.toNat else .other
  | _ => .other

mutual

/-- The value of a tree by the document's rules alone. -/
def toNode : Tree → Except ReadError Node
  | .scalar s => s.toNode
  | .seq items => do return .list (← itemNodes items)
  | .map es _ => do return .map (← pairNodes es)

def itemNodes : List Tree → Except ReadError (List Node)
  | [] => .ok []
  | t :: r => do return (← toNode t) :: (← itemNodes r)

def pairNodes : List (Tree × Tree) → Except ReadError (List (Key × Node))
  | [] => .ok []
  | (k, v) :: r => do return (keyOf (← toNode k), ← toNode v) :: (← pairNodes r)

end

/-! ## Trees read for what is expected -/

def expectedText : Tree → Except ReadError String
  | .scalar s => s.expectedText
  | _ => .error (.unexpected "a text")

def expectedPairs : Tree → Except ReadError (List (Tree × Tree))
  | .map es _ => .ok es
  | .scalar s => if s.isNull then .ok [] else .error (.unexpected "a map")
  | _ => .error (.unexpected "a map")

def expectedEntries (t : Tree) : Except ReadError (List (String × Tree)) := do
  (← t.expectedPairs).mapM fun e => do return (← e.1.expectedText, e.2)

/-- Unknown members are passed over, but they must mean something. -/
def expectedMembers (names : List String) (t : Tree) : Except ReadError (List (Option Tree)) := do
  let es ← t.expectedEntries
  for e in es do
    if !names.contains e.1 then
      let _ ← e.2.toNode
  names.mapM fun name => Source.uniqueValue name [name] es

instance : Source Tree where
  isUnset
    | .scalar s => s.isUnset
    | _ => false
  text := expectedText
  flag
    | .scalar s => match flagOf s.text with
      | some b => .ok b
      | none => .error (.unexpected "a boolean")
    | _ => .error (.unexpected "a boolean")
  whole
    | .scalar s => match unsignedOf s.text with
      | some n => .ok n
      | none => .error (.unexpected "an integer")
    | _ => .error (.unexpected "an integer")
  choice typeName
    | .scalar s => s.choice typeName
    | .map [(.scalar k, .scalar v)] false =>
      if v.isNullWord then .ok k.text else .error (.unexpected "the name of an alternative")
    | _ => .error (.unexpected "the name of an alternative")
  entries := expectedEntries
  members := expectedMembers
  node := toNode

end Tree

/-- The only document of a text; one mark of byte order may stand before it. -/
def read (s : String) : Except ReadError Tree := do
  let s := match s.toList with
    | c :: r => if c = byteOrderMark then .ofList r else s
    | [] => s
  (← Tree.ofTokens (Token.ofText s)).merged

end SchemaDdl.Yaml
