import SchemaDdl.Schema.Error

/-!
# Identifiers

A table or column name that reaches the database is made of ASCII letters,
digits and underscores, does not begin with a digit, and takes at most 64 bytes.
The length is looked at first, so a long name with a bad character is reported
as too long.
-/

namespace SchemaDdl.Identifier

def maxBytes : Nat := 64

def isHead (c : Char) : Bool := c.isAlpha || c = '_'

def isTail (c : Char) : Bool := c.isAlphanum || c = '_'

def isWord : List Char → Bool
  | [] => false
  | c :: r => isHead c && r.all isTail

def check (name : String) : Except SchemaError Unit :=
  if maxBytes < name.utf8ByteSize then
    .error (.invalidIdentifier name ("longer than " ++ toString maxBytes ++ " characters"))
  else if isWord name.toList then .ok ()
  else .error (.invalidIdentifier name
    "must start with a letter or underscore and contain only letters, digits and underscores")

def isValid (name : String) : Bool := name.utf8ByteSize ≤ maxBytes && isWord name.toList

end SchemaDdl.Identifier
