import SchemaDdl.Document.Yaml.Tag

/-!
# Tokens

The marks, scalars and collections of a YAML text in order, with the structure
that indentation gives made explicit: a block collection opens where something
is indented deeper and closes where something is indented less.

Whether a scalar is a key is known only when the colon behind it is met. Every
place where a key could stand is therefore remembered, with the number of
tokens before it, and a colon puts the key's token there afterwards. Such a
place is given up when its line ends, and where the indentation allows nothing
but a key, giving it up is an error.

In a flow sequence a colon makes a pair without braces, which ends at the next
comma or with the sequence; its braces are put among the tokens as if they had
been written.

The tokens of a text that goes wrong are those before the error, and then a
`fault`. A token is not given before it is known whether it is a key, so those
that were waiting for that are lost with the error.
-/

namespace SchemaDdl.Yaml

inductive Token where
  | versionDirective
  | tagDirective (handle replacement : String)
  | otherDirective
  | documentStart
  | documentEnd
  | sequenceStart
  | mappingStart
  | blockEnd
  | flowSequenceStart
  | flowSequenceEnd
  | flowMappingStart
  | flowMappingEnd
  | blockEntry
  | flowEntry
  | key
  | value
  | alias (name : String)
  | anchor (name : String)
  | tag (handle suffix : String)
  | scalar (style : Style) (text : String)
  | streamEnd
  | fault
deriving DecidableEq

/-- An indentation that was left for a deeper one; some are opened without a collection. -/
structure Indent where
  column : Int
  opensBlock : Bool

/-- A place where a key may stand. -/
structure KeyPlace where
  possible : Bool := false
  required : Bool := false
  tokensBefore : Nat := 0
  index : Nat := 0
  line : Nat := 0
  column : Nat := 0

/-- Of an open flow sequence: whether a pair without braces is open in it, and at which depth. -/
inductive BarePair where
  | closed
  | opened (depth : Nat)
deriving DecidableEq

structure Lexer where
  cursor : Cursor
  /-- The tokens so far, the last one first. -/
  reversed : List Token := []
  indent : Int := -1
  indents : List Indent := []
  /-- The number of flow collections that are open. -/
  flowDepth : Nat := 0
  /-- One for each flow sequence that is open, the innermost first. -/
  barePairs : List BarePair := []
  /-- Whether a brace or a question mark in a flow collection was met since the last bare pair ended. -/
  pairMarked : Bool := false
  /-- The line on which a comment ended the last token, if that was a plain scalar in a block. -/
  commentedLine : Option Nat := none
  keyPlaces : List KeyPlace := [{}]
  keyAllowed : Bool := true
  /-- Where a colon needs no blank behind it. -/
  adjacentValueAt : Option Nat := none
  ended : Bool := false

namespace Lexer

def inFlow (l : Lexer) : Bool := 0 < l.flowDepth

def push (l : Lexer) (t : Token) : Lexer := { l with reversed := t :: l.reversed }

/-- Puts a token where `n` tokens are before it. -/
def insertAt (l : Lexer) (n : Nat) (t : Token) : Lexer :=
  let after := l.reversed.length - n
  { l with reversed := l.reversed.take after ++ t :: l.reversed.drop after }

def column (l : Lexer) : Int := l.cursor.column

def keyPlace (l : Lexer) : KeyPlace := l.keyPlaces.headD {}

def setKeyPlace (l : Lexer) (k : KeyPlace) : Lexer := { l with keyPlaces := k :: l.keyPlaces.tail }

/-! ## Indentation -/

/-- Opens a block collection if the column is deeper than the current one. -/
def rollIndent (l : Lexer) (column : Int) (place : Option Nat) (t : Token) : Lexer :=
  if l.inFlow then l
  else
    let l := match l.indents with
      | i :: r => if l.indent ≤ column && !i.opensBlock then { l with indent := i.column, indents := r } else l
      | [] => l
    if l.indent < column then
      let l := { l with indents := ⟨l.indent, true⟩ :: l.indents, indent := column }
      match place with
      | some n => l.insertAt n t
      | none => l.push t
    else l

/-- Opens an indentation of one more column that no collection belongs to. -/
def rollOneColumn (l : Lexer) : Lexer :=
  if !l.inFlow && l.indents.head?.any Indent.opensBlock then
    { l with indents := ⟨l.indent, false⟩ :: l.indents, indent := l.indent + 1 }
  else l

def closeIndents (column : Int) : List Indent → Int → List Token → List Indent × Int × List Token
  | i :: r, indent, ts =>
    if column < indent then
      closeIndents column r i.column (if i.opensBlock then .blockEnd :: ts else ts)
    else (i :: r, indent, ts)
  | [], indent, ts => ([], indent, ts)

/-- Closes the block collections that are deeper than the column. -/
def unrollIndent (l : Lexer) (column : Int) : Lexer :=
  if l.inFlow then l
  else
    let (indents, indent, reversed) := closeIndents column l.indents l.indent l.reversed
    { l with indents, indent, reversed }

def closeEmptyIndents : List Indent → Int → List Indent × Int
  | i :: r, indent => if i.opensBlock then (i :: r, indent) else closeEmptyIndents r i.column
  | [], indent => ([], indent)

/-- Closes the innermost indentations that no collection belongs to. -/
def unrollEmptyIndents (l : Lexer) : Lexer :=
  let (indents, indent) := closeEmptyIndents l.indents l.indent
  { l with indents, indent }

/-! ## Keys -/

/-- Notes that a key may start here. -/
def saveKeyPlace (l : Lexer) : Lexer :=
  if l.keyAllowed then
    l.setKeyPlace
      { possible := true
        required := !l.inFlow && l.indent = l.column && l.indents.head?.any Indent.opensBlock
        tokensBefore := l.reversed.length
        index := l.cursor.index
        line := l.cursor.line
        column := l.cursor.column }
  else l

def dropKeyPlace (l : Lexer) : Except ReadError Lexer :=
  let k := l.keyPlace
  if k.possible && k.required then .error .malformed
  else .ok (l.setKeyPlace { k with possible := false })

def longestKey : Nat := 1024

/-- Whether no colon can make a key any more of what stood at a place. -/
def isStale (l : Lexer) (k : KeyPlace) : Bool :=
  !l.inFlow && (k.line < l.cursor.line || k.index + longestKey < l.cursor.index)

/-- Gives up a place that is on another line or too far away. -/
def dropStaleKeyPlace (l : Lexer) : Except ReadError Lexer :=
  let k := l.keyPlace
  if k.possible && l.isStale k then l.dropKeyPlace else .ok l

/-! ## Blanks between tokens -/

/-- Passes over blanks, line breaks and comments. A tab may not indent a block. -/
def skipBetween : Nat → Lexer → Except ReadError Lexer
  | 0, l => .ok l
  | fuel + 1, l =>
    let c := l.cursor
    match c.peek with
    | none => .ok l
    | some ch =>
      if ch = '\t' && !l.indents.isEmpty && c.indenting && l.column < l.indent then do
        let (c, _) ← c.skipToLineEnd true
        if c.isAtLineEnd then skipBetween fuel { l with cursor := c } else throw .malformed
      else if isBlank ch then skipBetween fuel { l with cursor := c.skipBlank }
      else if isBreak ch then
        skipBetween fuel { l with cursor := c.skipBreak, keyAllowed := l.keyAllowed || !l.inFlow }
      else if ch = '#' then skipBetween fuel { l with cursor := c.skipLine }
      else .ok l

def skip (l : Lexer) : Except ReadError Lexer := skipBetween (l.cursor.rest.length + 1) l

/-- Passes over one or more characters and the blanks behind them on the line. -/
def skipIndicator (l : Lexer) (n : Nat) : Except ReadError Lexer := do
  let (cursor, _) ← (l.cursor.skipChars n).skipToLineEnd true
  return { l with cursor }

/-! ## Marks of documents -/

def endStream (l : Lexer) : Except ReadError Lexer := do
  let k := l.keyPlace
  if l.inFlow || (k.possible && k.required) then throw .malformed
  let l := l.unrollIndent (-1)
  return { l.push .streamEnd with ended := true }

def documentMark (l : Lexer) (t : Token) : Except ReadError Lexer := do
  let l ← (l.unrollIndent (-1)).dropKeyPlace
  return { l with cursor := l.cursor.skipChars 3, keyAllowed := false }.push t

def versionNumber (c : Cursor) : Except ReadError Cursor :=
  let (digits, c) := c.takeWhile Char.isDigit
  if digits.isEmpty || 9 < digits.length then .error .malformed else .ok c

def directiveToken (name : String) (c : Cursor) : Except ReadError (Token × Cursor) := do
  if name = "YAML" then
    let c ← versionNumber (c.skipWhile isBlank)
    if c.peek ≠ some '.' then throw .malformed
    return (.versionDirective, ← versionNumber c.skipChar)
  else if name = "TAG" then
    let (handle, c) ← tagHandle true (c.skipWhile isBlank)
    let (replacement, c) ← tagPrefix (c.skipWhile isBlank)
    if !Cursor.endsWord c.peek then throw .malformed
    return (.tagDirective handle replacement, c)
  else return (.otherDirective, c.skipLine)

/-- A directive line, with the cursor on its percent sign. One with an unknown name says nothing. -/
def directive (l : Lexer) : Except ReadError Lexer := do
  let l ← (l.unrollIndent (-1)).dropKeyPlace
  let (name, c) := l.cursor.skipChar.takeWhile isNameChar
  if name.isEmpty || !Cursor.endsWord c.peek then throw .malformed
  let (t, c) ← directiveToken name c
  let (c, _) ← c.skipToLineEnd true
  if !c.isAtLineEnd then throw .malformed
  let c := if c.isAtBreak then c.skipBreak else c
  return { l with cursor := c, keyAllowed := false }.push t

/-! ## Collections -/

def deepestFlow : Nat := 255

def openFlow (l : Lexer) (sequence : Bool) : Except ReadError Lexer := do
  let l := l.saveKeyPlace.rollOneColumn
  if deepestFlow ≤ l.flowDepth then throw .malformed
  let l := { l with
    flowDepth := l.flowDepth + 1, keyPlaces := {} :: l.keyPlaces, keyAllowed := true
    barePairs := if sequence then .closed :: l.barePairs else l.barePairs
    pairMarked := !sequence || l.pairMarked }
  let l ← l.skipIndicator 1
  return l.push (if sequence then .flowSequenceStart else .flowMappingStart)

/-- Closes the pair without braces that is open in the innermost flow collection. -/
def closeBarePair (l : Lexer) : Lexer :=
  if l.barePairs.head? = some (.opened l.flowDepth) then
    { l with barePairs := .closed :: l.barePairs.tail, pairMarked := false }.push .flowMappingEnd
  else l

def closeFlow (l : Lexer) (sequence : Bool) : Except ReadError Lexer := do
  if !l.inFlow then throw .malformed
  let l ← l.dropKeyPlace
  let l := if sequence then
      let l := l.closeBarePair
      { l with barePairs := l.barePairs.tail }
    else l
  let l := { l with
    flowDepth := l.flowDepth - 1, keyPlaces := l.keyPlaces.tail, keyAllowed := false }
  let l ← l.skipIndicator 1
  let l := if l.inFlow then { l with adjacentValueAt := some l.cursor.index } else l
  return l.push (if sequence then .flowSequenceEnd else .flowMappingEnd)

def flowEntry (l : Lexer) : Except ReadError Lexer := do
  let l := (← l.dropKeyPlace).closeBarePair
  let l ← { l with keyAllowed := true }.skipIndicator 1
  return l.push .flowEntry

def blockEntry (l : Lexer) : Except ReadError Lexer := do
  if l.inFlow || !l.keyAllowed then throw .malformed
  let column := l.column
  let l := { l with cursor := l.cursor.skipChar }.rollIndent column none .sequenceStart
  let (c, blanks) ← l.cursor.skipToLineEnd true
  if blanks.tabs && c.peek = some '-' && Cursor.endsWord c.peekNext then throw .malformed
  let l := { l with cursor := c }
  let l := if c.isAtBreak || c.peek.any isFlow then l.rollOneColumn else l
  let l ← l.dropKeyPlace
  return { l with keyAllowed := true }.push .blockEntry

/-- Passes over spaces, line breaks and comments; says whether there was a space or a break. -/
def skipSpaces : Nat → Bool → Lexer → Bool × Lexer
  | 0, spaced, l => (spaced, l)
  | fuel + 1, spaced, l =>
    let c := l.cursor
    match c.peek with
    | none => (spaced, l)
    | some ch =>
      if ch = ' ' then skipSpaces fuel true { l with cursor := c.skipBlank }
      else if isBreak ch then
        skipSpaces fuel true { l with cursor := c.skipBreak, keyAllowed := l.keyAllowed || !l.inFlow }
      else if ch = '#' then skipSpaces fuel spaced { l with cursor := c.skipLine }
      else (spaced, l)

def explicitKey (l : Lexer) : Except ReadError Lexer := do
  if !l.inFlow && !l.keyAllowed then throw .malformed
  let l ← (l.rollIndent l.column none .mappingStart).dropKeyPlace
  let l := { l with
    cursor := l.cursor.skipChar, keyAllowed := !l.inFlow, pairMarked := l.inFlow || l.pairMarked }
  let (spaced, l) := skipSpaces (l.cursor.rest.length + 1) false l
  if !spaced || l.cursor.peek = some '\t' then throw .malformed
  return l.push .key

/-- The cursor behind a colon; after tabs alone nothing may follow that looks like a key or an entry. -/
def behindColon (c : Cursor) : Except ReadError Cursor := do
  let c := c.skipChar
  if c.peek ≠ some '\t' then return c
  let (after, blanks) ← c.skipToLineEnd true
  if !blanks.spaces && after.peek.any (fun x => x = '-' || isWordChar x) then throw .malformed
  return after

/--
A colon behind a place where a key may stand makes it one. In a flow sequence
it opens a pair of its own unless a brace or a question mark did so; the key of
such a pair stands on the colon's line.
-/
def valueOf (l : Lexer) : Except ReadError Lexer := do
  let k := l.keyPlace
  let line := l.cursor.line
  let column := l.column
  let opensPair := !l.barePairs.isEmpty && !l.pairMarked
  let l := if opensPair then { l with barePairs := .opened l.flowDepth :: l.barePairs.tail } else l
  let l := { l with cursor := ← behindColon l.cursor }
  if k.possible then
    if opensPair && k.line < line then throw .malformed
    let l := l.insertAt k.tokensBefore .key
    let l := if opensPair then l.insertAt k.tokensBefore .flowMappingStart else l
    let l := (l.rollIndent k.column (some k.tokensBefore) .mappingStart).rollOneColumn
    let l := l.setKeyPlace { k with possible := false }
    return { l with keyAllowed := false }.push .value
  else
    if !l.inFlow && !l.keyAllowed then throw .malformed
    let l := if opensPair then l.push .flowMappingStart else l
    let l := (l.rollIndent column none .mappingStart).rollOneColumn
    return { l with keyAllowed := !l.inFlow }.push .value

/-- A colon inside of a flow collection may have its value right behind it only after a quotation. -/
def flowValue (l : Lexer) : Except ReadError Lexer :=
  if l.adjacentValueAt ≠ some l.cursor.index &&
      l.cursor.peekNext.any (fun c => c = '[' || c = '\x7b') then .error .malformed
  else l.valueOf

/-! ## Scalars and what stands before them -/

def isAnchorChar (c : Char) : Bool := isNameChar c && !isFlow c

def anchorOrAlias (l : Lexer) (make : String → Token) : Except ReadError Lexer := do
  let l := { l.saveKeyPlace with keyAllowed := false }
  let (name, cursor) := l.cursor.skipChar.takeWhile isAnchorChar
  if name.isEmpty then throw .malformed
  return { l with cursor }.push (make name)

def tagToken (l : Lexer) : Except ReadError Lexer := do
  let l := { l.saveKeyPlace with keyAllowed := false }
  let (handle, suffix, cursor) ← tagParts l.cursor
  if Cursor.endsWord cursor.peek || (l.inFlow && cursor.peek.any isFlow) then
    return { l with cursor }.push (.tag handle suffix)
  else throw .malformed

def quoted (l : Lexer) (single : Bool) : Except ReadError Lexer := do
  let l := { l.saveKeyPlace with keyAllowed := false }
  let (text, cursor) ← quotedScalar single l.indent l.inFlow l.cursor
  let l ← { l with cursor }.skip
  return { l with adjacentValueAt := some l.cursor.index }.push (.scalar .quoted text)

/-- Whether a plain scalar here would go on with one that a comment ended on the line before. -/
def resumesCommented (l : Lexer) : Bool :=
  !l.inFlow && l.commentedLine.any (· + 1 = l.cursor.line) && l.unrollEmptyIndents.indent < l.column

def plain (l : Lexer) : Except ReadError Lexer := do
  if l.resumesCommented then throw .malformed
  let l := { l.saveKeyPlace with keyAllowed := false }.unrollEmptyIndents
  let (text, commented, cursor) ← plainScalar (l.indent + 1) l.inFlow l.cursor
  let commentedLine := if commented && !l.inFlow then some cursor.line else none
  return { l with cursor, keyAllowed := cursor.indenting, commentedLine }.push (.scalar .plain text)

def block (l : Lexer) (literal : Bool) : Except ReadError Lexer := do
  let l := { l.saveKeyPlace with keyAllowed := true }.unrollEmptyIndents
  let (text, cursor) ← blockScalar literal l.indent l.cursor
  return { l with cursor }.push (.scalar .block text)

/-! ## One token after another -/

/-- Whether a colon that something follows on its line separates a key in a flow collection from its value. -/
def isFlowColon (l : Lexer) : Bool :=
  l.inFlow && (l.cursor.peekNext.any isFlow || l.adjacentValueAt = some l.cursor.index)

/-- Whether a character opens a plain scalar. -/
def opensPlain (l : Lexer) (ch : Char) : Bool :=
  let alone := Cursor.endsWord l.cursor.peekNext
  match ch with
  | '-' | '?' => !alone
  | ':' => !alone && !l.isFlowColon
  | '|' | '>' => l.inFlow
  | '*' | '&' | '!' | '\x27' | '"' | '%' | '@' | '\x60' => false
  | _ => !isFlow ch

/-- The token that a character opens, if it is not a plain scalar. -/
def token (l : Lexer) (ch : Char) : Except ReadError Lexer :=
  match ch with
  | '[' => l.openFlow true
  | '\x7b' => l.openFlow false
  | ']' => l.closeFlow true
  | '\x7d' => l.closeFlow false
  | ',' => l.flowEntry
  | '*' => l.anchorOrAlias .alias
  | '&' => l.anchorOrAlias .anchor
  | '!' => l.tagToken
  | '\x27' => l.quoted true
  | '"' => l.quoted false
  | '-' => l.blockEntry
  | '?' => l.explicitKey
  | ':' => if Cursor.endsWord l.cursor.peekNext then l.valueOf else l.flowValue
  | '|' => l.block true
  | '>' => l.block false
  | _ => .error .malformed

/-- Whether a token may stand left of the current indentation, as the end of a flow collection may. -/
def mayOutdent (l : Lexer) (ch : Char) : Bool :=
  l.inFlow && (ch = ']' || ch = '\x7d' || ch = ',')

def next (l : Lexer) : Except ReadError Lexer := do
  let l ← l.skip
  let l ← l.dropStaleKeyPlace
  let l := l.unrollIndent l.column
  match l.cursor.peek with
  | none => l.endStream
  | some ch =>
    if l.column = 0 && ch = '%' then l.directive
    else if l.column = 0 && l.cursor.isAtDocumentStart then l.documentMark .documentStart
    else if l.column = 0 && l.cursor.isAtDocumentEnd then do
      let l ← l.documentMark .documentEnd
      let (cursor, _) ← l.cursor.skipToLineEnd true
      if cursor.isAtLineEnd then return { l with cursor } else throw .malformed
    else if l.column < l.indent && !l.mayOutdent ch then throw .malformed
    else if l.opensPlain ch then l.plain
    else token { l with commentedLine := none } ch

/-- The number of tokens of which it is known whether they are keys. -/
def settledCount (l : Lexer) : Nat :=
  let waiting := l.keyPlaces.filter fun k => k.possible && (k.required || !l.isStale k)
  (waiting.map KeyPlace.tokensBefore).foldl min l.reversed.length

def failed (l : Lexer) : List Token := l.reversed.reverse.take l.settledCount ++ [.fault]

def run : Nat → Lexer → List Token
  | 0, l => l.failed
  | fuel + 1, l =>
    if l.ended then l.reversed.reverse
    else match l.next with
      | .ok l => run fuel l
      | .error _ => l.failed

end Lexer

/-- The tokens of a text. Each step of the lexer but the last takes at least one character. -/
def Token.ofText (s : String) : List Token :=
  let c := Cursor.ofText s
  Lexer.run (c.rest.length + 2) { cursor := c }

end SchemaDdl.Yaml
