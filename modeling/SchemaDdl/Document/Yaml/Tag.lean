import SchemaDdl.Document.Yaml.Scalar

/-!
# Tags

A tag says what a node is, whatever it looks like. It is written as a handle
and a suffix, or in full between angles; the handle stands for a prefix, which
the directives before a document may have defined. Here a tag is read from a
cursor and given its meaning. The standard tags may be written short, with one
or two exclamation marks; a standard tag in full between angles is a tag like
any other.

A percent sign and two digits in a tag are a byte. Such bytes must make up
whole characters.
-/

namespace SchemaDdl.Yaml

/-- What the tag of a node says. -/
inductive Tag where
  | absent
  | nonSpecific
  | null
  | text
  /-- A text written as its bytes in base 64. -/
  | binary
  /-- A standard tag that no text can have. -/
  | typed
  /-- Any other tag, which may be the name of a type. -/
  | other (typeName : Option String)
deriving DecidableEq

namespace Tag

/-- Whether two tags are of one kind; what type another tag names does not matter. -/
def sameKind : Tag → Tag → Bool
  | other _, other _ => true
  | t, u => t = u

def standardPrefix : String := "tag:yaml.org,2002:"

/-- The standard tags that no text can have. -/
def typedNames : List String :=
  ["int", "float", "bool", "seq", "map", "timestamp", "degrees", "radians"]

/-- Whether a written tag is the standard one with the name. -/
def isStandard (name written : String) : Bool :=
  written = "!" ++ name || written = "!!" ++ name || written = standardPrefix ++ "!" ++ name

/-- The name of a type that a written tag stands for, unless it is the name of something else. -/
def typeName? (written : String) : Option String :=
  let cs := written.toList
  let start := standardPrefix.toList
  let name := (if start.isPrefixOf cs then cs.drop start.length else cs).dropWhile (· = '!')
  if name.isEmpty || name.contains ':' || name.contains '!' then none else some (.ofList name)

/-- The tag of a suffix behind what its handle stands for. -/
def ofParts (handle suffix : String) : Tag :=
  let written := (if handle = "!" then "" else handle) ++ "!" ++ suffix
  if handle = "" && suffix = "!" then nonSpecific
  else if isStandard "null" written then null
  else if isStandard "str" written then text
  else if isStandard "binary" written then binary
  else if typedNames.any fun name => isStandard name written then typed
  else other (typeName? written)

end Tag

/-- The prefixes that handles stand for. -/
abbrev TagHandles := List (String × String)

/-- The tag of a handle and a suffix; a handle with a name must have been defined. -/
def Tag.resolve (handles : TagHandles) (handle suffix : String) : Except ReadError Tag :=
  match handles.lookup handle with
  | some replacement => .ok (ofParts replacement suffix)
  | none =>
    if handle = "!!" then .ok (ofParts standardPrefix suffix)
    else if 2 ≤ handle.length && handle.toList.getLast? = some '!' then .error .malformed
    else .ok (ofParts handle suffix)

/-! ## Characters written as bytes -/

/-- A byte written as a percent sign and two digits. -/
def escapedByte : List Char → Option (Nat × List Char)
  | '%' :: a :: b :: r => do return ((← hexValue a) * 16 + (← hexValue b), r)
  | _ => none

/-- Of the first byte of a character: how many more it has, and the bits that it gives. -/
def leadBits (b : Nat) : Option (Nat × Nat) :=
  if b < 0x80 then some (0, b)
  else if b < 0xc0 then none
  else if b < 0xe0 then some (1, b - 0xc0)
  else if b < 0xf0 then some (2, b - 0xe0)
  else if b < 0xf8 then some (3, b - 0xf0)
  else none

def trailBits : Nat → Nat → List Char → Option (Nat × List Char)
  | 0, code, cs => some (code, cs)
  | n + 1, code, cs => do
    let (b, cs) ← escapedByte cs
    if 0x80 ≤ b && b < 0xc0 then trailBits n (code * 64 + (b - 0x80)) cs else none

def escapedCharacter (cs : List Char) : Option (Char × List Char) := do
  let (b, cs) ← escapedByte cs
  let (more, code) ← leadBits b
  let (code, cs) ← trailBits more code cs
  return (← charOfNat? code, cs)

def withoutEscapes : Nat → List Char → Option (List Char)
  | 0, _ => none
  | _ + 1, [] => some []
  | fuel + 1, c :: r =>
    if c = '%' then do
      let (ch, r) ← escapedCharacter (c :: r)
      return ch :: (← withoutEscapes fuel r)
    else do return c :: (← withoutEscapes fuel r)

/-! ## Reading a tag -/

def isWordChar (c : Char) : Bool := c.isAlphanum || c = '-' || c = '_'

def isUriChar (c : Char) : Bool :=
  c.isAlphanum || "-#;/?:@&=+$,_.!~*\x27()[]%".toList.contains c

def isTagChar (c : Char) : Bool := isUriChar c && !isFlow c && c ≠ '!'

def uriText (p : Char → Bool) (c : Cursor) : Except ReadError (String × Cursor) :=
  let (s, c) := c.takeWhile p
  match withoutEscapes (s.length + 1) s.toList with
  | some cs => .ok (.ofList cs, c)
  | none => .error .malformed

/-- A handle; one with a name ends with another exclamation mark. -/
def tagHandle (inDirective : Bool) (c : Cursor) : Except ReadError (String × Cursor) := do
  if c.peek ≠ some '!' then throw .malformed
  let (name, c) := c.skipChar.takeWhile isWordChar
  if c.peek = some '!' then return ("!" ++ name ++ "!", c.skipChar)
  if inDirective && !name.isEmpty then throw .malformed
  return ("!" ++ name, c)

/-- What a handle is to stand for: the suffix of a tag, or anything behind an exclamation mark. -/
def tagPrefix (c : Cursor) : Except ReadError (String × Cursor) :=
  if c.peek.any fun x => x = '!' || isTagChar x then uriText isUriChar c else .error .malformed

def verbatimTag (c : Cursor) : Except ReadError (String × String × Cursor) := do
  let (uri, c) ← uriText isUriChar (c.skipChars 2)
  if c.peek ≠ some '>' then throw .malformed
  return ("", uri, c.skipChar)

def shorthandTag (c : Cursor) : Except ReadError (String × String × Cursor) := do
  let (handle, c) ← tagHandle false c
  let (suffix, c) ← uriText isTagChar c
  if 2 ≤ handle.length && handle.toList.getLast? = some '!' then
    if suffix.isEmpty then throw .malformed
    return (handle, suffix, c)
  let suffix := (handle.drop 1).toString ++ suffix
  return if suffix.isEmpty then ("", "!", c) else ("!", suffix, c)

/-- The handle and suffix of a tag, with the cursor on its exclamation mark. -/
def tagParts (c : Cursor) : Except ReadError (String × String × Cursor) :=
  if c.peekNext = some '<' then verbatimTag c else shorthandTag c

end SchemaDdl.Yaml
