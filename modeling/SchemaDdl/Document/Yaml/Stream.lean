import SchemaDdl.Document.Yaml.Tree

/-!
# The document of a YAML text

A text holds one document. Directives may stand before it, and a mark must
follow them. Each directive says anew what tag handles stand for, so only the
last one counts; the version may be given once.

A second document is an error, even an empty one. But behind a document that
has ended only the beginning of another is looked for: what is not one, or goes
wrong before one has begun, is passed over.
-/

namespace SchemaDdl.Yaml

namespace Reading

def isDirective : Token → Bool
  | .versionDirective | .tagDirective .. | .otherDirective => true
  | _ => false

/-- Passes over directives; gives the tag handles of the last one. -/
def directives : List Token → Bool → TagHandles → Except ReadError (TagHandles × List Token)
  | .versionDirective :: r, versioned, _ =>
    if versioned then .error .malformed else directives r true []
  | .tagDirective handle replacement :: r, versioned, _ =>
    directives r versioned [(handle, replacement)]
  | .otherDirective :: r, versioned, _ => directives r versioned []
  | ts, _, handles => .ok (handles, ts)

/-- Whether nothing stands behind the mark of a document, so that its tree is empty. -/
def isEmptyDocument (ts : List Token) : Bool :=
  match ts.headD .streamEnd with
  | .documentStart | .documentEnd | .streamEnd => true
  | t => isDirective t

/-! ## Behind the document -/

/-- Whether the beginning of a node can be read. -/
def beginsNode (handles : TagHandles) (ts : List Token) : Bool :=
  match ({ tokens := ts } : Reading).properties handles with
  | .error _ => false
  | .ok (props, r) =>
    match r.peek with
    | .scalar .. | .flowSequenceStart | .flowMappingStart | .sequenceStart | .mappingStart => true
    | .fault => false
    | _ => props.isPresent

/-- Whether directives and a mark are followed by a document, which may be empty. -/
def beginsMarkedDocument (ts : List Token) : Bool :=
  match directives ts false [] with
  | .ok (handles, .documentStart :: r) => isEmptyDocument r || beginsNode handles r
  | _ => false

/-- Whether another document follows; without a mark it can do so only behind one that ended with a mark. -/
def beginsDocument (endMarked : Bool) (ts : List Token) : Bool :=
  let ts := ts.dropWhile (· = .documentEnd)
  match ts.headD .streamEnd with
  | .streamEnd | .fault => false
  | t =>
    if endMarked && !isDirective t && t ≠ .documentStart then beginsNode [] ts
    else beginsMarkedDocument ts

/-- The end of a document, which must be met before anything that cannot be read. -/
def finish (r : Reading) : Except ReadError Unit :=
  let another := match r.tokens with
    | .fault :: _ => true
    | .documentEnd :: ts => beginsDocument true ts
    | ts => ts.head?.any isDirective || beginsDocument false ts
  if another || r.hasTooManyAliases then .error .malformed else .ok ()

end Reading

/-- The tree of the only document, an empty scalar if there is none. -/
def Tree.ofTokens (ts : List Token) : Except ReadError Tree := do
  let ts := ts.dropWhile (· = .documentEnd)
  if ts.head? = some .streamEnd then return .empty
  let declared := ts.head?.any Reading.isDirective
  let (handles, ts) ← Reading.directives ts false []
  let marked := ts.head? = some .documentStart
  if declared && !marked then throw .malformed
  let r : Reading := { tokens := if marked then ts.tail else ts }
  let (t, r) ← if marked && Reading.isEmptyDocument r.tokens then pure (Tree.empty, r)
    else r.node handles (2 * ts.length + 2) true false
  r.finish
  return t

end SchemaDdl.Yaml
