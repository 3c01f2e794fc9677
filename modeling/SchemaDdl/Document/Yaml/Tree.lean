import SchemaDdl.Document.Yaml.Token

/-!
# The tree of a YAML text

The tokens of one document are read into a tree of scalars, sequences and maps.
An alias is replaced by the tree that its anchor stands for, which must be
complete, so a tree never contains itself. A name stands for the anchor that
was last given it, from the place where it was given.

A node that is left out is a plain `~`; one of which only the anchor or the tag
is written has no text at all. What a few tokens stand for can be very large
through aliases, so what aliases may put into a document is limited, and so is
its depth.
-/

namespace SchemaDdl.Yaml

structure Scalar where
  text : String
  style : Style
  tag : Tag := .absent
deriving DecidableEq

inductive Tree where
  | scalar (s : Scalar)
  | seq (items : List Tree)
  /-- The pairs of a map, and whether others were merged into it. -/
  | map (entries : List (Tree × Tree)) (merging : Bool)
deriving Inhabited

namespace Tree

def empty : Tree := .scalar { text := "~", style := .plain }

mutual

/-- The scalars of a tree, and the beginnings and ends of its collections. -/
def partCount : Tree → Nat
  | .scalar _ => 1
  | .seq items => itemsPartCount items + 2
  | .map es _ => pairsPartCount es + 2

def itemsPartCount : List Tree → Nat
  | [] => 0
  | t :: r => partCount t + itemsPartCount r

def pairsPartCount : List (Tree × Tree) → Nat
  | [] => 0
  | (k, v) :: r => partCount k + partCount v + pairsPartCount r

end

end Tree

/-- The tokens left, and what was read before them. -/
structure Reading where
  tokens : List Token
  /-- The numbers of the anchors with their names, the last one first. -/
  anchors : List (String × Nat) := []
  /-- The trees that are complete by the numbers of their anchors. -/
  trees : List (Nat × Tree) := []
  aliasCount : Nat := 0
  /-- The parts that aliases have put into the document. -/
  aliasedParts : Nat := 0
  /-- The number of collections that are open. -/
  depth : Nat := 0

namespace Reading

def peek (r : Reading) : Token := r.tokens.headD .streamEnd

def drop (r : Reading) : Reading := { r with tokens := r.tokens.tail }

/-! ## Limits -/

def deepest : Nat := 2000

def mostAliasedParts : Nat := 1000000

/-- From this many aliases on, each anchor must account for some of them. -/
def manyAliases : Nat := 100

def aliasesPerAnchor : Nat := 10

def hasTooManyAliases (r : Reading) : Bool :=
  manyAliases ≤ r.aliasCount && aliasesPerAnchor * r.anchors.length < r.aliasCount

def opened (r : Reading) : Except ReadError Reading :=
  if r.depth < deepest then .ok { r with depth := r.depth + 1 } else .error .malformed

def closed (r : Reading) : Reading := { r with depth := r.depth - 1 }

/-! ## What stands before a node -/

structure Properties where
  anchor : Option String := none
  tag : Option Tag := none

def Properties.isPresent (p : Properties) : Bool := p.anchor.isSome || p.tag.isSome

def anchorOf (r : Reading) : Option String × Reading :=
  match r.peek with
  | .anchor name => (some name, r.drop)
  | _ => (none, r)

def tagOf (handles : TagHandles) (r : Reading) : Except ReadError (Option Tag × Reading) :=
  match r.peek with
  | .tag handle suffix => do return (some (← Tag.resolve handles handle suffix), r.drop)
  | _ => .ok (none, r)

/-- An anchor and a tag in either order. -/
def properties (handles : TagHandles) (r : Reading) : Except ReadError (Properties × Reading) := do
  match r.anchorOf with
  | (some name, r) =>
    let (tag, r) ← r.tagOf handles
    return ({ anchor := some name, tag }, r)
  | (none, r) =>
    match ← r.tagOf handles with
    | (none, r) => return ({}, r)
    | (some tag, r) =>
      let (anchor, r) := r.anchorOf
      return ({ anchor, tag := some tag }, r)

/-- Gives the name of an anchor to the next number. -/
def declare (r : Reading) (p : Properties) : Reading :=
  match p.anchor with
  | none => r
  | some name => { r with anchors := (name, r.anchors.length) :: r.anchors }

/-- Keeps a tree by the number that its anchor was given before the tree was read. -/
def keep (r : Reading) (p : Properties) (before : Reading) (t : Tree) : Reading :=
  if p.anchor.isSome then { r with trees := (before.anchors.length, t) :: r.trees } else r

def aliased (r : Reading) (name : String) : Except ReadError (Tree × Reading) :=
  match (r.anchors.lookup name).bind fun n => r.trees.lookup n with
  | none => .error .malformed
  | some t =>
    let parts := r.aliasedParts + t.partCount
    if mostAliasedParts < parts then .error .malformed
    else .ok (t, { r.drop with aliasCount := r.aliasCount + 1, aliasedParts := parts })

/-- The scalar of a token; an anchor before quotation marks with nothing in them makes it a plain one. -/
def scalarOf (p : Properties) (style : Style) (text : String) : Tree :=
  let plain := p.anchor.isSome && text = "" && style = .quoted
  .scalar { text, style := if plain then .plain else style, tag := p.tag.getD .absent }

/-! ## Nodes -/

def endsBlockNode (t : Token) : Bool :=
  match t with
  | .key | .value | .blockEnd => true
  | _ => false

mutual

/--
A node. `block` says whether block collections may stand here, `bare` whether a
sequence may stand here without being indented.
-/
def node (handles : TagHandles) : Nat → Bool → Bool → Reading → Except ReadError (Tree × Reading)
  | 0, _, _, _ => .error .malformed
  | fuel + 1, block, bare, r => do
    if let .alias name := r.peek then return ← r.aliased name
    let (props, before) ← r.properties handles
    let r := before.declare props
    let (t, r) ← (match r.peek with
      | .scalar style text => .ok (scalarOf props style text, r.drop)
      | .flowSequenceStart => do
        let (items, r) ← flowSequence handles fuel true (← r.drop.opened)
        return (.seq items, r.closed)
      | .flowMappingStart => do
        let (es, r) ← flowMapping handles fuel true (← r.drop.opened)
        return (.map es false, r.closed)
      | .sequenceStart => do
        if !block then throw .malformed
        let (items, r) ← blockSequence handles fuel (← r.drop.opened)
        return (.seq items, r.closed)
      | .mappingStart => do
        if !block then throw .malformed
        let (es, r) ← blockMapping handles fuel (← r.drop.opened)
        return (.map es false, r.closed)
      | t => do
        if bare && t = .blockEntry then
          let (items, r) ← bareSequence handles fuel (← r.opened)
          return (.seq items, r.closed)
        if !props.isPresent then throw .malformed
        return (scalarOf props .plain "", r) : Except ReadError (Tree × Reading))
    return (t, r.keep props before t)

/-- The entries of a block sequence up to its end. -/
def blockSequence (handles : TagHandles) : Nat → Reading → Except ReadError (List Tree × Reading)
  | 0, _ => .error .malformed
  | fuel + 1, r => match r.peek with
    | .blockEnd => .ok ([], r.drop)
    | .blockEntry => do
      let r := r.drop
      let (t, r) ← (match r.peek with
        | .blockEntry | .blockEnd => .ok (.empty, r)
        | _ => node handles fuel true false r : Except ReadError (Tree × Reading))
      let (rest, r) ← blockSequence handles fuel r
      return (t :: rest, r)
    | _ => .error .malformed

/-- The entries of a sequence that is not indented; it ends where no entry follows. -/
def bareSequence (handles : TagHandles) : Nat → Reading → Except ReadError (List Tree × Reading)
  | 0, _ => .error .malformed
  | fuel + 1, r => match r.peek with
    | .blockEntry => do
      let r := r.drop
      let (t, r) ← (if r.peek = .blockEntry || endsBlockNode r.peek then .ok (.empty, r)
        else node handles fuel true false r : Except ReadError (Tree × Reading))
      let (rest, r) ← bareSequence handles fuel r
      return (t :: rest, r)
    | _ => .ok ([], r)

/-- The pairs of a block mapping up to its end. -/
def blockMapping (handles : TagHandles) : Nat → Reading →
    Except ReadError (List (Tree × Tree) × Reading)
  | 0, _ => .error .malformed
  | fuel + 1, r => do
    if r.peek = .blockEnd then return ([], r.drop)
    let (k, r) ← (match r.peek with
      | .key =>
        let r := r.drop
        if endsBlockNode r.peek then .ok (.empty, r) else node handles fuel true true r
      | .value => .ok (.empty, r)
      | _ => .error .malformed : Except ReadError (Tree × Reading))
    let (v, r) ← (match r.peek with
      | .value =>
        let r := r.drop
        if endsBlockNode r.peek then .ok (.empty, r) else node handles fuel true true r
      | _ => .ok (.empty, r) : Except ReadError (Tree × Reading))
    let (rest, r) ← blockMapping handles fuel r
    return ((k, v) :: rest, r)

/--
The items of a flow sequence up to its bracket. A pair behind a question mark is
a map of its own; where its key is left out, the token there is passed over.
-/
def flowSequence (handles : TagHandles) : Nat → Bool → Reading →
    Except ReadError (List Tree × Reading)
  | 0, _, _ => .error .malformed
  | fuel + 1, first, r => do
    if r.peek = .flowSequenceEnd then return ([], r.drop)
    let r ← (if first then .ok r
      else if r.peek = .flowEntry then .ok r.drop else .error .malformed : Except ReadError Reading)
    if r.peek = .flowSequenceEnd then return ([], r.drop)
    let (t, r) ← (match r.peek with
      | .key => do
        let r ← r.drop.opened
        let (k, r) ← (match r.peek with
          | .value | .flowEntry | .flowSequenceEnd => .ok (.empty, r.drop)
          | _ => node handles fuel false false r : Except ReadError (Tree × Reading))
        let (v, r) ← (match r.peek with
          | .value =>
            let r := r.drop
            match r.peek with
            | .flowEntry | .flowSequenceEnd => .ok (.empty, r)
            | _ => node handles fuel false false r
          | _ => .ok (.empty, r) : Except ReadError (Tree × Reading))
        return (.map [(k, v)] false, r.closed)
      | _ => node handles fuel false false r : Except ReadError (Tree × Reading))
    let (rest, r) ← flowSequence handles fuel false r
    return (t :: rest, r)

/-- The pairs of a flow mapping up to its brace. -/
def flowMapping (handles : TagHandles) : Nat → Bool → Reading →
    Except ReadError (List (Tree × Tree) × Reading)
  | 0, _, _ => .error .malformed
  | fuel + 1, first, r => do
    if r.peek = .flowMappingEnd then return ([], r.drop)
    let r ← (if first then .ok r
      else if r.peek = .flowEntry then .ok r.drop else .error .malformed : Except ReadError Reading)
    if r.peek = .flowMappingEnd then return ([], r.drop)
    let hasKey := r.peek = .key
    let mayHaveValue := hasKey || r.peek = .value
    let r := if hasKey then r.drop else r
    let (k, r) ← (match r.peek with
      | .value => .ok (.empty, r)
      | .flowEntry | .flowMappingEnd =>
        if hasKey then .ok (.empty, r) else .error .malformed
      | _ => node handles fuel false false r : Except ReadError (Tree × Reading))
    let (v, r) ← (match r.peek with
      | .value =>
        let r := if mayHaveValue then r.drop else r
        match r.peek with
        | .flowEntry | .flowMappingEnd => .ok (.empty, r)
        | .value => .error .malformed
        | _ => node handles fuel false false r
      | _ => .ok (.empty, r) : Except ReadError (Tree × Reading))
    let (rest, r) ← flowMapping handles fuel false r
    return ((k, v) :: rest, r)

end

end Reading

end SchemaDdl.Yaml
