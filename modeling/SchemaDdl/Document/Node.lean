import SchemaDdl.Number.Double

/-!
# Values of a document

A schema is written as JSON or as YAML, and both are trees of the same kind:
nothing, booleans, integers, numbers with a fraction, texts, lists and maps.
A map is kept as its pairs in the order of the text, repeated keys included,
because whether a repeated key is an error depends on what the map stands for.

Keys are nearly always texts. A natural number as a key names a member by its
place, and any other key names nothing.

`unreadable` stands for a value that is well formed but that nothing can hold:
a number past the largest double, half of a surrogate pair, nesting past the
limit. It is an error only if someone asks for the value, so that an unknown
member which holds one can still be passed over.
-/

namespace SchemaDdl

inductive Key where
  | text (s : String)
  | place (n : Nat)
  | other
  | unreadable
deriving DecidableEq, Inhabited

/-- What is written for a key. -/
def Key.name : Key → String
  | text s => s
  | place n => toString n
  | other | unreadable => "null"

inductive Node where
  | null
  | bool (b : Bool)
  | int (n : Int)
  | float (d : Double)
  | text (s : String)
  | list (items : List Node)
  | map (entries : List (Key × Node))
  | unreadable
deriving Inhabited

/-- Why a document is not what it should be. -/
inductive ReadError where
  | malformed
  | unexpected (wanted : String)
  | outOfRange
  | missing (member : String)
  | repeated (key : String)
  | tooManyMembers
deriving DecidableEq

def ReadError.message : ReadError → String
  | malformed => "the text is not well formed"
  | unexpected wanted => "expected " ++ wanted
  | outOfRange => "number out of range"
  | missing member => "missing member '" ++ member ++ "'"
  | repeated key => "repeated key '" ++ key ++ "'"
  | tooManyMembers => "too many members"

namespace Node

mutual

/-- Whether the value can be held, with everything in it. -/
def isReadable : Node → Bool
  | list items => listReadable items
  | map entries => entriesReadable entries
  | unreadable => false
  | _ => true

def listReadable : List Node → Bool
  | [] => true
  | n :: r => n.isReadable && listReadable r

def entriesReadable : List (Key × Node) → Bool
  | [] => true
  | (k, n) :: r => decide (k ≠ .unreadable) && n.isReadable && entriesReadable r

end

/-- A map whose keys are texts. -/
def ofEntries (l : List (String × Node)) : Node := map (l.map fun e => (.text e.1, e.2))

end Node

end SchemaDdl
