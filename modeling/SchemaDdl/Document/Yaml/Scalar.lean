import SchemaDdl.Document.Yaml.Cursor

/-!
# Scalars

A scalar is a text with the style it was written in; what it means depends on
the style, so the style is kept. Four readers take a scalar from a cursor: one
for each kind of quotation, one for plain text and one for blocks.

Line breaks inside a quoted or plain scalar are folded: a single one becomes a
space and of several all but the first are kept. Blanks around a break are
dropped. A quoted scalar in double marks may escape a break, which then leaves
nothing behind.
-/

namespace SchemaDdl.Yaml

inductive Style where
  | plain
  | quoted
  | block
deriving DecidableEq

/-- What comes between two words of a folded scalar. -/
inductive Gap where
  /-- Blanks on one line, in reverse. -/
  | blanks (run : List Char)
  /-- A break that is folded, and the number of breaks after it. -/
  | breaks (more : Nat)
  /-- A break that was escaped, and the number of breaks after it. -/
  | escapedBreak (more : Nat)

namespace Gap

def hasBreak : Gap → Bool
  | blanks _ => false
  | _ => true

def blank (c : Char) : Gap → Gap
  | blanks run => blanks (c :: run)
  | g => g

def lineBreak : Gap → Gap
  | blanks _ => breaks 0
  | breaks n => breaks (n + 1)
  | escapedBreak n => escapedBreak (n + 1)

/-- The text of the gap in reverse. -/
def reversed : Gap → List Char
  | blanks run => run
  | breaks 0 => [' ']
  | breaks n => List.replicate n '\n'
  | escapedBreak n => List.replicate n '\n'

end Gap

/-! ## Quoted scalars -/

def hexValue (c : Char) : Option Nat :=
  if c.isDigit then some (c.toNat - '0'.toNat)
  else if 'a' ≤ c && c ≤ 'f' then some (c.toNat - 'a'.toNat + 10)
  else if 'A' ≤ c && c ≤ 'F' then some (c.toNat - 'A'.toNat + 10)
  else none

/-- The character that an escape of one letter stands for. -/
def namedEscape : Char → Option Char
  | '0' => some '\x00'
  | 'a' => some '\x07'
  | 'b' => some '\x08'
  | 't' | '\t' => some '\t'
  | 'n' => some '\n'
  | 'v' => some '\x0b'
  | 'f' => some '\x0c'
  | 'r' => some '\r'
  | 'e' => some '\x1b'
  | ' ' => some ' '
  | '"' => some '"'
  | '/' => some '/'
  | '\\' => some '\\'
  | 'N' => some (.ofNat 0x85)
  | '_' => some (.ofNat 0xa0)
  | 'L' => some (.ofNat 0x2028)
  | 'P' => some (.ofNat 0x2029)
  | _ => none

def escapeLength : Char → Nat
  | 'x' => 2
  | 'u' => 4
  | 'U' => 8
  | _ => 0

def charOfNat? (n : Nat) : Option Char := if n.isValidChar then some (.ofNat n) else none

/-- The character of an escape, with the cursor on its backslash. -/
def escapedChar (c : Cursor) : Except ReadError (Char × Cursor) :=
  match c.peekNext with
  | none => .error .malformed
  | some letter =>
    match namedEscape letter with
    | some ch => .ok (ch, c.skipChars 2)
    | none =>
      let n := escapeLength letter
      let c := c.skipChars 2
      let digits := c.rest.take n
      if n = 0 || digits.length < n then .error .malformed
      else match digits.mapM hexValue with
        | none => .error .malformed
        | some ds => match charOfNat? (ds.foldl (fun v d => v * 16 + d) 0) with
          | none => .error .malformed
          | some ch => .ok (ch, c.skipChars n)

/-- A run of characters without blanks, in reverse before what was read; stops at the closing mark. -/
def quotedWord (single : Bool) : Nat → List Char → Cursor →
    Except ReadError (List Char × Bool × Cursor)
  | 0, acc, c => .ok (acc, false, c)
  | fuel + 1, acc, c =>
    match c.peek with
    | none => .ok (acc, false, c)
    | some ch =>
      if isBlank ch || isBreak ch then .ok (acc, false, c)
      else if single then
        if ch = '\x27' then
          if c.peekNext = some '\x27' then quotedWord single fuel (ch :: acc) (c.skipChars 2)
          else .ok (acc, false, c)
        else quotedWord single fuel (ch :: acc) c.skipChar
      else if ch = '"' then .ok (acc, false, c)
      else if ch = '\\' then
        if c.peekNext.any isBreak then .ok (acc, true, c.skipChar.skipBreak)
        else do
          let (e, c) ← escapedChar c
          quotedWord single fuel (e :: acc) c
      else quotedWord single fuel (ch :: acc) c.skipChar

/-- Blanks and breaks between words; a tab may not indent a line. -/
def quotedGap (indent : Int) : Nat → Gap → Cursor → Except ReadError (Gap × Cursor)
  | 0, g, c => .ok (g, c)
  | fuel + 1, g, c =>
    match c.peek with
    | none => .ok (g, c)
    | some ch =>
      if isBlank ch then
        if g.hasBreak && ch = '\t' && (c.column : Int) < indent then .error .malformed
        else quotedGap indent fuel (g.blank ch) c.skipBlank
      else if isBreak ch then quotedGap indent fuel g.lineBreak c.skipBreak
      else .ok (g, c)

/-- Whether a line that goes on with a quoted scalar has to be indented, which only its end does not. -/
def Gap.wantsIndent : Gap → Bool
  | breaks _ => true
  | _ => false

/-- The text behind the opening mark, in reverse, and the cursor behind the closing one. -/
def quotedBody (single inFlow : Bool) (indent : Int) : Nat → List Char → Cursor →
    Except ReadError (List Char × Cursor)
  | 0, _, _ => .error .malformed
  | fuel + 1, acc, c => do
    let closing := if single then '\x27' else '"'
    if c.column = 0 && c.isAtDocumentMark then throw .malformed
    if c.isAtEnd then throw .malformed
    let (acc, escaped, c) ← quotedWord single (c.rest.length + 1) acc c
    if c.peek = some closing then return (acc, c.skipChar)
    let (g, c) ← quotedGap indent (c.rest.length + 1)
      (if escaped then .escapedBreak 0 else .blanks []) c
    if !inFlow && g.wantsIndent && c.peek ≠ some closing && (c.column : Int) ≤ indent then
      throw .malformed
    quotedBody single inFlow indent fuel (g.reversed ++ acc) c

/-- What may stand behind the closing mark on the same line. -/
def mayFollowQuoted (inFlow : Bool) (startLine : Nat) (c : Cursor) : Bool :=
  match c.peek with
  | none => true
  | some ch =>
    isBreak ch || (inFlow && (ch = ',' || ch = '\x7d' || ch = ']' || ch = ':')) ||
      (!inFlow && ch = ':' && c.line = startLine)

def quotedScalar (single : Bool) (indent : Int) (inFlow : Bool) (c : Cursor) :
    Except ReadError (String × Cursor) := do
  let (acc, after) ← quotedBody single inFlow indent (c.rest.length + 1) [] c.skipChar
  let (after, _) ← after.skipToLineEnd true
  if mayFollowQuoted inFlow c.line after then return (.ofList acc.reverse, after)
  else throw .malformed

/-! ## Plain scalars -/

/-- Whether the character under the cursor goes on with a plain scalar. -/
def continuesPlain (inFlow : Bool) (c : Cursor) : Bool :=
  match c.peek with
  | none => false
  | some ch =>
    if isBlank ch || isBreak ch then false
    else if ch = ':' && (Cursor.endsWord c.peekNext || (inFlow && c.peekNext.any isFlow)) then false
    else !(inFlow && isFlow ch)

def plainWord (inFlow : Bool) : Nat → List Char → Cursor → List Char × Cursor
  | 0, acc, c => (acc, c)
  | fuel + 1, acc, c =>
    match c.peek with
    | none => (acc, c)
    | some ch =>
      if continuesPlain inFlow c then plainWord inFlow fuel (ch :: acc) c.skipChar else (acc, c)

/-- Blanks and breaks behind a word; a tab may indent a line only if nothing else is on it. -/
def plainGap (indent : Int) : Nat → Gap → Cursor → Except ReadError (Gap × Cursor)
  | 0, g, c => .ok (g, c)
  | fuel + 1, g, c =>
    match c.peek with
    | none => .ok (g, c)
    | some ch =>
      if isBlank ch then
        if g.hasBreak && ch = '\t' && (c.column : Int) < indent then do
          let (c, _) ← c.skipToLineEnd true
          if c.isAtLineEnd then plainGap indent fuel g c else throw .malformed
        else plainGap indent fuel (g.blank ch) c.skipBlank
      else if isBreak ch then plainGap indent fuel g.lineBreak c.skipBreak
      else .ok (g, c)

/--
The words of a plain scalar, in reverse, with the gap and the cursor behind
them. The scalar ends where a word does not go on with it, at a comment, at a
mark between documents, and outside of flow collections at a line that is not
indented enough.
-/
def plainBody (inFlow : Bool) (indent : Int) : Nat → List Char → Gap → Cursor →
    Except ReadError (List Char × Gap × Cursor)
  | 0, _, _, _ => .error .malformed
  | fuel + 1, acc, g, c => do
    if (c.column = 0 && c.isAtDocumentMark) || c.peek = some '#' then return (acc, g, c)
    if inFlow && c.peek = some '-' && c.peekNext.any isFlow then throw .malformed
    let (acc, g, c) : List Char × Gap × Cursor :=
      if continuesPlain inFlow c then
        let (acc, c) := plainWord inFlow (c.rest.length + 1) (g.reversed ++ acc) c
        (acc, .blanks [], c)
      else (acc, g, c)
    if !(c.isAtBlank || c.isAtBreak) then return (acc, g, c)
    let (g, c) ← plainGap indent (c.rest.length + 1) g c
    if !inFlow && (c.column : Int) < indent then return (acc, g, c)
    plainBody inFlow indent fuel acc g c

/-- A plain scalar, and whether a comment on the same line ended it. -/
def plainScalar (indent : Int) (inFlow : Bool) (c : Cursor) :
    Except ReadError (String × Bool × Cursor) := do
  if inFlow && (c.column : Int) < indent then throw .malformed
  let (acc, g, after) ← plainBody inFlow indent (c.rest.length + 1) [] (.blanks []) c
  if acc.isEmpty then throw .malformed
  return (.ofList acc.reverse, !g.hasBreak && after.peek = some '#', after)

/-! ## Block scalars -/

/-- What becomes of the line breaks at the end of a block scalar. -/
inductive Chomping where
  | strip
  | clip
  | keep
deriving DecidableEq

structure BlockHeader where
  chomping : Chomping := .clip
  increment : Nat := 0

def chompingOf : Option Char → Option Chomping
  | some '+' => some .keep
  | some '-' => some .strip
  | _ => none

def incrementOf (o : Option Char) : Except ReadError (Option Nat) :=
  match o with
  | some '0' => .error .malformed
  | some ch => .ok (if ch.isDigit then some (ch.toNat - '0'.toNat) else none)
  | none => .ok none

/-- The two indicators may stand in either order. -/
def blockHeader (c : Cursor) : Except ReadError (BlockHeader × Cursor) := do
  match chompingOf c.peek with
  | some chomping =>
    let c := c.skipChar
    match ← incrementOf c.peek with
    | some increment => return ({ chomping, increment }, c.skipChar)
    | none => return ({ chomping }, c)
  | none =>
    match ← incrementOf c.peek with
    | none => return ({}, c)
    | some increment =>
      let c := c.skipChar
      match chompingOf c.peek with
      | some chomping => return ({ chomping, increment }, c.skipChar)
      | none => return ({ increment }, c)

/-- Passes over empty lines and the indentation of the next one; counts the lines. -/
def skipIndentation (indent : Nat) : Nat → Nat → Cursor → Nat × Cursor
  | 0, lines, c => (lines, c)
  | fuel + 1, lines, c =>
    let spaces := (c.rest.takeWhile (· = ' ')).length
    let c := c.advance (min spaces (indent - c.column))
    if c.isAtBreak then skipIndentation indent fuel (lines + 1) c.skipBreak else (lines, c)

/-- As `skipIndentation`, but finds out the indentation: the widest of the lines passed over. -/
def findIndentation : Nat → Nat → Nat → Cursor → Nat × Nat × Cursor
  | 0, widest, lines, c => (widest, lines, c)
  | fuel + 1, widest, lines, c =>
    let c := c.skipWhile (· = ' ')
    let widest := max widest c.column
    if c.isAtBreak then findIndentation fuel widest (lines + 1) c.skipBreak else (widest, lines, c)

/-- What has been read of a block scalar. -/
structure BlockText where
  reversed : List Char := []
  /-- Whether a line break is pending behind the text. -/
  pending : Bool := false
  /-- Empty lines behind that. -/
  empty : Nat := 0
  /-- Whether the last line began with a blank. -/
  blankLed : Bool := false

def newlines (n : Nat) : List Char := List.replicate n '\n'

/-- The lines of a block from the first character of one of them. -/
def blockLines (literal : Bool) (indent : Nat) : Nat → BlockText → Cursor → BlockText × Cursor
  | 0, t, c => (t, c)
  | fuel + 1, t, c =>
    if c.column ≠ indent || c.isAtEnd || (indent = 0 && c.isAtDocumentEnd) then (t, c)
    else
      let blank := c.isAtBlank
      let joined :=
        if !literal && t.pending && !t.blankLed && !blank then
          (if t.empty = 0 then [' '] else newlines t.empty) ++ t.reversed
        else newlines (t.empty + if t.pending then 1 else 0) ++ t.reversed
      let line := c.rest.takeWhile fun x => !isBreak x
      let c := c.skipLine
      let t : BlockText := { reversed := line.reverse ++ joined, blankLed := blank }
      if c.isAtEnd then (t, c)
      else
        let (empty, c) := skipIndentation indent (c.rest.length + 1) 0 c.skipBreak
        blockLines literal indent fuel { t with pending := true, empty } c

/-- A block scalar, with the cursor on its indicator. -/
def blockScalar (literal : Bool) (parent : Int) (c : Cursor) :
    Except ReadError (String × Cursor) := do
  let startLine := c.line
  let (h, c) ← blockHeader c.skipChar
  let (c, _) ← c.skipToLineEnd true
  if !c.isAtLineEnd then throw .malformed
  let broke := c.isAtBreak
  let c := if broke then c.skipBreak else c
  if c.peek = some '\t' then throw .malformed
  let (indent, empty, c) : Nat × Nat × Cursor :=
    if 0 < h.increment then
      let indent := (max parent 0).toNat + h.increment
      let (empty, c) := skipIndentation indent (c.rest.length + 1) 0 c
      (indent, empty, c)
    else
      let (widest, empty, c) := findIndentation (c.rest.length + 1) 0 0 c
      let indent := max widest (parent + 1).toNat
      (if 0 < parent then max indent 1 else indent, empty, c)
  if c.isAtEnd then
    let text := match h.chomping with
      | .strip => []
      | _ => if c.line = startLine then []
        else if h.chomping = .keep && 0 < empty then newlines empty
        else newlines (if broke then 1 else 0)
    return (.ofList text, c)
  if c.column < indent && parent < (c.column : Int) then throw .malformed
  let (t, c) := blockLines literal indent (c.rest.length + 1) { empty } c
  let ended :=
    if h.chomping = .strip then []
    else (if t.pending then ['\n'] else []) ++
      if c.isAtEnd && max indent 1 ≤ c.column then ['\n'] else []
  let kept := if h.chomping = .keep then newlines t.empty else []
  return (.ofList (t.reversed.reverse ++ ended ++ kept), c)

end SchemaDdl.Yaml
