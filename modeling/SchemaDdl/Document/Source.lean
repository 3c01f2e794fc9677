import SchemaDdl.Document.Node

/-!
# What a typed value is read from

The members of a schema are read in the same way whatever form they were
written in, but the forms differ in what they let pass for a text, a boolean or
an unset member. `Source` is the list of questions that a reader of typed
values asks; each form of document answers them once.

A `Node` answers strictly: a boolean is a boolean, a text is a text. A value
whose members have fixed names may also be written as a list of them in order,
from which the last ones may be left out.
-/

namespace SchemaDdl

class Source (τ : Type) where
  /-- Whether an optional member written so is unset. -/
  isUnset : τ → Bool
  text : τ → Except ReadError String
  flag : τ → Except ReadError Bool
  whole : τ → Except ReadError Int
  /-- The name of one of several alternatives; a document may also name the type that has them. -/
  choice (typeName : String) : τ → Except ReadError String
  /-- The pairs of a map with free keys. -/
  entries : τ → Except ReadError (List (String × τ))
  /-- The values of the named members, in the order of the names. -/
  members : List String → τ → Except ReadError (List (Option τ))
  /-- The whole value as the document's own rules type it. -/
  node : τ → Except ReadError Node

namespace Source

/-- The value of the only pair with the key, if there is one. -/
def uniqueValue {τ κ : Type} [DecidableEq κ] (name : String) (keys : List κ)
    (es : List (κ × τ)) : Except ReadError (Option τ) :=
  match es.filter fun e => keys.contains e.1 with
  | [] => .ok none
  | [e] => .ok (some e.2)
  | _ => .error (.repeated name)

end Source

namespace Node

def keyText : Key → Except ReadError String
  | .text s => .ok s
  | _ => .error (.unexpected "a text as key")

def strictEntries : Node → Except ReadError (List (String × Node))
  | map es => es.mapM fun e => do return (← keyText e.1, e.2)
  | _ => .error (.unexpected "a map")

/-- A member may be named by its text or by its place. -/
def namedMembers (names : List String) (es : List (Key × Node)) :
    Except ReadError (List (Option Node)) := do
  if es.any fun e => e.1 = .other || e.1 = .unreadable then
    throw (.unexpected "the name of a member")
  names.zipIdx.mapM fun (name, i) => Source.uniqueValue name [.text name, .place i] es

def strictMembers (names : List String) : Node → Except ReadError (List (Option Node))
  | map es => namedMembers names es
  | list items =>
    if items.length ≤ names.length then
      .ok (items.map some ++ List.replicate (names.length - items.length) none)
    else .error .tooManyMembers
  | _ => .error (.unexpected "a map of members")

def strictText : Node → Except ReadError String
  | text s => .ok s
  | _ => .error (.unexpected "a text")

/-- An alternative is its name, or a map of its name alone to nothing. -/
def strictChoice : Node → Except ReadError String
  | text s => .ok s
  | map [(.text s, null)] => .ok s
  | _ => .error (.unexpected "the name of an alternative")

instance : Source Node where
  isUnset
    | null => true
    | _ => false
  text := strictText
  flag
    | bool b => .ok b
    | _ => .error (.unexpected "a boolean")
  whole
    | int n => .ok n
    | _ => .error (.unexpected "an integer")
  choice _ := strictChoice
  entries := strictEntries
  members := strictMembers
  node n := if n.isReadable then .ok n else .error .outOfRange

end Node

end SchemaDdl
