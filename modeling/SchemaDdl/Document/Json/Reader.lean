import SchemaDdl.Document.Node

/-!
# Reading JSON

The grammar is that of RFC 8259 and nothing besides: no mark before the text,
no comments, no comma before a closing bracket. Every reader takes characters
from the front of a list and returns the rest. Each value starts with a
character of its own, so the length of the text bounds the recursion.

Integers that fit 64 bits, with or without sign, stay integers; `-0` and all
other numbers become doubles. A number is read as the leading digits that fit
64 bits, scaled by a power of ten in at most a few rounded steps; one that
leaves the range of doubles cannot be held. Neither can half of a surrogate
pair, nor a list or map inside of 127 others.
-/

namespace SchemaDdl.Json

def isBlank (c : Char) : Bool := c = ' ' || c = '\t' || c = '\n' || c = '\r'

def skipBlanks (cs : List Char) : List Char := cs.dropWhile isBlank

/-! ## Numbers -/

/-- The parts of a number as they are written. -/
structure Numeral where
  negative : Bool
  whole : List Char
  fraction : Option (List Char)
  exponent : Option Int

def digitValue (c : Char) : Nat := c.toNat - '0'.toNat

def natOfDigits (cs : List Char) : Nat := cs.foldl (fun n c => n * 10 + digitValue c) 0

def digitRun (cs : List Char) : List Char × List Char := (cs.takeWhile Char.isDigit, cs.dropWhile Char.isDigit)

def wholePart (cs : List Char) : Except ReadError (List Char × List Char) :=
  match digitRun cs with
  | ([], _) => .error .malformed
  | ('0' :: _ :: _, _) => .error .malformed
  | found => .ok found

def fractionPart : List Char → Except ReadError (Option (List Char) × List Char)
  | '.' :: r => match digitRun r with
    | ([], _) => .error .malformed
    | (ds, rest) => .ok (some ds, rest)
  | cs => .ok (none, cs)

def exponentPart : List Char → Except ReadError (Option Int × List Char)
  | c :: r =>
    if c = 'e' || c = 'E' then
      let (negative, r) : Bool × List Char := match r with
        | '-' :: r => (true, r)
        | '+' :: r => (false, r)
        | r => (false, r)
      match digitRun r with
      | ([], _) => .error .malformed
      | (ds, rest) =>
        let n := natOfDigits ds
        .ok (some (if negative then -(n : Int) else n), rest)
    else .ok (none, c :: r)
  | [] => .ok (none, [])

def numeral (cs : List Char) : Except ReadError (Numeral × List Char) := do
  let (negative, cs) : Bool × List Char := match cs with
    | '-' :: r => (true, r)
    | cs => (false, cs)
  let (whole, cs) ← wholePart cs
  let (fraction, cs) ← fractionPart cs
  let (exponent, cs) ← exponentPart cs
  return (⟨negative, whole, fraction, exponent⟩, cs)

def wordLimit : Nat := UInt64.size

/-- The leading digits that fit a word, and how many digits were left out. -/
def leadingDigits : Nat → List Char → Nat × Nat
  | n, [] => (n, 0)
  | n, c :: r =>
    let m := n * 10 + digitValue c
    if m < wordLimit then leadingDigits m r else (n, r.length + 1)

/--
`d · 10^exponent`, by one product or quotient with a power of ten, after
dividing by `10^308` as long as the exponent is below that. `none` where the
largest double is exceeded.
-/
def scaleByTen : Nat → Double → Int → Option Double
  | 0, _, _ => some (.ofMagnitude false 0)
  | fuel + 1, d, exponent =>
    if exponent.natAbs ≤ 308 then
      let power := Double.ofDecimal false 1 exponent.natAbs
      if exponent < 0 then some (d.divMagnitude power)
      else
        let scaled := d.mulMagnitude power
        if scaled.isInfinite then none else some scaled
    else if d.significand = 0 then some d
    else if 0 < exponent then none
    else scaleByTen fuel (d.divMagnitude (.ofDecimal false 1 308)) (exponent + 308)

def floatValue (n : Numeral) : Option Double :=
  let (whole, dropped) := leadingDigits 0 n.whole
  let fraction := n.fraction.getD []
  let (all, unused) := if dropped = 0 then leadingDigits whole fraction else (whole, fraction.length)
  let places : Int := (fraction.length : Int) - unused
  (scaleByTen 5 (.ofRatio false all 1) (n.exponent.getD 0 + dropped - places)).map
    (Double.withSign n.negative)

def numberNode (n : Numeral) : Node :=
  let whole := natOfDigits n.whole
  let asFloat := match floatValue n with
    | some d => Node.float d
    | none => Node.unreadable
  if n.fraction.isSome || n.exponent.isSome then asFloat
  else if n.negative then
    if whole ≠ 0 && whole ≤ wordLimit / 2 then .int (-(whole : Int)) else asFloat
  else if whole < wordLimit then .int whole else asFloat

/-! ## Texts -/

def hexValue (c : Char) : Option Nat :=
  if c.isDigit then some (c.toNat - '0'.toNat)
  else if 'a' ≤ c && c ≤ 'f' then some (c.toNat - 'a'.toNat + 10)
  else if 'A' ≤ c && c ≤ 'F' then some (c.toNat - 'A'.toNat + 10)
  else none

def hexUnit (a b c d : Char) : Option Nat := do
  let digits ← [a, b, c, d].mapM hexValue
  return digits.foldl (fun n x => n * 16 + x) 0

def isHighSurrogate (n : Nat) : Bool := 0xd800 ≤ n && n ≤ 0xdbff

def isLowSurrogate (n : Nat) : Bool := 0xdc00 ≤ n && n ≤ 0xdfff

def simpleEscape : Char → Option Char
  | '"' => some '"'
  | '\\' => some '\\'
  | '/' => some '/'
  | 'b' => some '\x08'
  | 'f' => some '\x0c'
  | 'n' => some '\n'
  | 'r' => some '\r'
  | 't' => some '\t'
  | _ => none

/--
One character or escape of a text. The character is `none` where a unit of a
surrogate pair stands alone; the second unit is then left to be read again.
-/
def textStep : List Char → Except ReadError (Option Char × List Char)
  | '\\' :: 'u' :: a :: b :: c :: d :: r =>
    match hexUnit a b c d with
    | none => .error .malformed
    | some high =>
      if isHighSurrogate high then
        match r with
        | '\\' :: 'u' :: a :: b :: c :: d :: r' =>
          match hexUnit a b c d with
          | none => .error .malformed
          | some low =>
            if isLowSurrogate low then
              .ok (some (.ofNat (0x10000 + (high - 0xd800) * 0x400 + (low - 0xdc00))), r')
            else .ok (none, r)
        | _ => .ok (none, r)
      else if isLowSurrogate high then .ok (none, r)
      else .ok (some (.ofNat high), r)
  | '\\' :: c :: r => match simpleEscape c with
    | some e => .ok (some e, r)
    | none => .error .malformed
  | c :: r => if c.toNat < 0x20 then .error .malformed else .ok (some c, r)
  | [] => .error .malformed

/-- A text behind its opening mark, `none` if it holds half of a surrogate pair. -/
def textBody : Nat → List Char → Except ReadError (Option (List Char) × List Char)
  | 0, _ => .error .malformed
  | fuel + 1, cs => match cs with
    | '"' :: r => .ok (some [], r)
    | cs => do
      let (c, r) ← textStep cs
      let (tail, r) ← textBody fuel r
      return ((do return (← c) :: (← tail)), r)

/-! ## Values -/

def depthLimit : Nat := 127

/-- A list or map at a depth, which cannot be held past the limit. -/
def bounded (depth : Nat) (n : Node) : Node := if depth < depthLimit then n else .unreadable

def word (name : String) (n : Node) (cs : List Char) : Except ReadError (Node × List Char) :=
  if name.toList.isPrefixOf cs then .ok (n, cs.drop name.length) else .error .malformed

mutual

def value : Nat → Nat → List Char → Except ReadError (Node × List Char)
  | 0, _, _ => .error .malformed
  | fuel + 1, depth, cs => match skipBlanks cs with
    | '\x7b' :: r => do
      let (es, r) ← match skipBlanks r with
        | '\x7d' :: r => .ok ([], r)
        | r => entries fuel (depth + 1) r
      return (bounded depth (.map es), r)
    | '[' :: r => do
      let (items, r) ← match skipBlanks r with
        | ']' :: r => .ok ([], r)
        | r => items fuel (depth + 1) r
      return (bounded depth (.list items), r)
    | '"' :: r => do
      let (s, r) ← textBody r.length r
      return (match s with
        | some s => .text (.ofList s)
        | none => .unreadable, r)
    | 't' :: r => word "true" (.bool true) ('t' :: r)
    | 'f' :: r => word "false" (.bool false) ('f' :: r)
    | 'n' :: r => word "null" .null ('n' :: r)
    | cs => do
      let (n, r) ← numeral cs
      return (numberNode n, r)

/-- The values of a list up to its closing bracket, at least one. -/
def items : Nat → Nat → List Char → Except ReadError (List Node × List Char)
  | 0, _, _ => .error .malformed
  | fuel + 1, depth, cs => do
    let (n, r) ← value fuel depth cs
    match skipBlanks r with
    | ',' :: r => do
      let (rest, r) ← items fuel depth r
      return (n :: rest, r)
    | ']' :: r => return ([n], r)
    | _ => throw .malformed

/-- The pairs of a map up to its closing brace, at least one. -/
def entries : Nat → Nat → List Char → Except ReadError (List (Key × Node) × List Char)
  | 0, _, _ => .error .malformed
  | fuel + 1, depth, cs => match skipBlanks cs with
    | '"' :: r => do
      let (s, r) ← textBody r.length r
      let key := match s with
        | some s => Key.text (.ofList s)
        | none => .unreadable
      match skipBlanks r with
      | ':' :: r => do
        let (n, r) ← value fuel depth r
        match skipBlanks r with
        | ',' :: r => do
          let (rest, r) ← entries fuel depth r
          return ((key, n) :: rest, r)
        | '\x7d' :: r => return ([(key, n)], r)
        | _ => throw .malformed
      | _ => throw .malformed
    | _ => .error .malformed

end

/-- The one value of a text. -/
def read (s : String) : Except ReadError Node := do
  let cs := s.toList
  let (n, r) ← value (cs.length + 1) 0 cs
  if (skipBlanks r).isEmpty then return n else throw .malformed

end SchemaDdl.Json
