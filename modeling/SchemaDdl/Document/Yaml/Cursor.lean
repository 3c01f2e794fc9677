import SchemaDdl.Document.Node

/-!
# A place in a YAML text

YAML gives meaning to columns and lines, so what is left of a text travels with
the place it starts at. A cursor also knows whether only blanks came before it
on its line: as long as that holds the line is still being indented.

A line ends at a line feed, at a carriage return, or at both together. A zero
character ends the text. A column is counted in characters, the place in the
whole text in bytes.
-/

namespace SchemaDdl.Yaml

def isBreak (c : Char) : Bool := c = '\n' || c = '\r'

def isBlank (c : Char) : Bool := c = ' ' || c = '\t'

def byteOrderMark : Char := .ofNat 0xfeff

/-- The characters that names may have. -/
def isNameChar (c : Char) : Bool := !isBlank c && !isBreak c && c ≠ byteOrderMark

/-- The characters that structure a flow collection. -/
def isFlow (c : Char) : Bool := c = ',' || c = '[' || c = ']' || c = '\x7b' || c = '\x7d'

structure Cursor where
  rest : List Char
  /-- The bytes before the cursor. -/
  index : Nat := 0
  line : Nat := 0
  column : Nat := 0
  /-- Whether the line holds nothing but blanks before the cursor. -/
  indenting : Bool := true

namespace Cursor

def ofText (s : String) : Cursor := { rest := s.toList.takeWhile (· ≠ '\x00') }

def peek (c : Cursor) : Option Char := c.rest.head?

def peekNext (c : Cursor) : Option Char := c.rest.tail.head?

def isAtEnd (c : Cursor) : Bool := c.rest.isEmpty

/-- Blank, line break or the end of the text. -/
def endsWord (o : Option Char) : Bool :=
  match o with
  | none => true
  | some c => isBlank c || isBreak c

def isAtBreak (c : Cursor) : Bool := c.peek.any isBreak

def isAtBlank (c : Cursor) : Bool := c.peek.any isBlank

def isAtLineEnd (c : Cursor) : Bool := c.isAtEnd || c.isAtBreak

def byteCount (cs : List Char) : Nat := cs.foldl (fun n c => n + c.utf8Size) 0

/-- Passes over characters of the line, which leave it indented or not as it was. -/
def advance (n : Nat) (c : Cursor) : Cursor :=
  { c with
    rest := c.rest.drop n, index := c.index + byteCount (c.rest.take n), column := c.column + n }

def skipBlank (c : Cursor) : Cursor := c.advance 1

def skipChar (c : Cursor) : Cursor := { c.skipBlank with indenting := false }

def skipChars : Nat → Cursor → Cursor
  | 0, c => c
  | n + 1, c => skipChars n c.skipChar

def skipBreak (c : Cursor) : Cursor :=
  match c.rest with
  | '\r' :: '\n' :: r =>
    { rest := r, index := c.index + 2, line := c.line + 1, column := 0, indenting := true }
  | _ :: r => { rest := r, index := c.index + 1, line := c.line + 1, column := 0, indenting := true }
  | [] => c

/-- Passes over characters as long as a test holds. -/
def skipWhile (p : Char → Bool) (c : Cursor) : Cursor := c.advance (c.rest.takeWhile p).length

def takeWhile (p : Char → Bool) (c : Cursor) : String × Cursor :=
  (.ofList (c.rest.takeWhile p), c.skipWhile p)

def skipLine (c : Cursor) : Cursor := c.skipWhile fun x => !isBreak x

/-- A mark of three characters that stands alone at the beginning of a line. -/
def isAtMark (mark : List Char) (c : Cursor) : Bool :=
  mark.isPrefixOf c.rest && endsWord (c.rest.drop mark.length).head?

def isAtDocumentStart (c : Cursor) : Bool := c.isAtMark ['-', '-', '-']

def isAtDocumentEnd (c : Cursor) : Bool := c.isAtMark ['.', '.', '.']

def isAtDocumentMark (c : Cursor) : Bool := c.isAtDocumentStart || c.isAtDocumentEnd

/-- What a run of blanks held. -/
structure Blanks where
  tabs : Bool := false
  spaces : Bool := false

/--
Passes over blanks, and over a comment if there is one. A comment must have a
blank before it.
-/
def skipToLineEnd (tabs : Bool) (c : Cursor) : Except ReadError (Cursor × Blanks) :=
  let run := c.rest.takeWhile fun x => x = ' ' || (tabs && x = '\t')
  let found : Blanks := { tabs := run.contains '\t', spaces := run.contains ' ' }
  let c := c.skipWhile fun x => x = ' ' || (tabs && x = '\t')
  if c.peek = some '#' then
    if run.isEmpty then .error .malformed else .ok (c.skipLine, found)
  else .ok (c, found)

end Cursor

end SchemaDdl.Yaml
