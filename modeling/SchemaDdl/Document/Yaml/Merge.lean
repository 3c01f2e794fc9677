import SchemaDdl.Document.Yaml.Tree
import SchemaDdl.Text.Blank

/-!
# Repeated and merged keys

A key stands once in a map. The plain key `<<` is not one of the map's own: its
value is a map, or a sequence of maps, whose pairs are added behind the map's
own pairs wherever their key is not there yet. Of several such values, and of
the maps in a sequence, the last one comes first.

A key is told from another by its text and the kind of its tag; how it is quoted
does not matter.
-/

namespace SchemaDdl.Yaml.Tree

mutual

def sameKey : Tree → Tree → Bool
  | .scalar s, .scalar t => s.text = t.text && s.tag.sameKind t.tag
  | .seq xs, .seq ys => sameItems xs ys
  | .map es _, .map fs _ => samePairs es fs
  | _, _ => false

def sameItems : List Tree → List Tree → Bool
  | [], [] => true
  | x :: xs, y :: ys => sameKey x y && sameItems xs ys
  | _, _ => false

def samePairs : List (Tree × Tree) → List (Tree × Tree) → Bool
  | [], [] => true
  | (k, v) :: es, (l, w) :: fs => sameKey k l && sameKey v w && samePairs es fs
  | _, _ => false

end

def isMergeKey : Tree → Bool
  | .scalar s => s.text = "<<" && s.style = .plain && s.tag = .absent
  | _ => false

def isNullWord (s : String) : Bool := s = "" || s = "~" || Text.lowerAscii s = "null"

mutual

/-- The pairs that a merged value adds, in their order. -/
def mergedPairs : Tree → Except ReadError (List (Tree × Tree))
  | .scalar s =>
    if s.style = .plain && isNullWord s.text then .ok [] else .error (.unexpected "a map to merge")
  | .map es _ => do
    let (own, merged) ← splitPairs es
    return own ++ merged
  | .seq items => mergedItems items

def mergedItems : List Tree → Except ReadError (List (Tree × Tree))
  | [] => .ok []
  | t :: r => do
    let here ← mergedPairs t
    return (← mergedItems r) ++ here

/-- The pairs of a map that are its own, and the ones that it merges. -/
def splitPairs : List (Tree × Tree) → Except ReadError (List (Tree × Tree) × List (Tree × Tree))
  | [] => .ok ([], [])
  | (k, v) :: r =>
    if isMergeKey k then do
      let here ← mergedPairs v
      let (own, merged) ← splitPairs r
      return (own, merged ++ here)
    else do
      let (own, merged) ← splitPairs r
      return ((k, v) :: own, merged)

end

def hasKey (k : Tree) (es : List (Tree × Tree)) : Bool := es.any fun e => sameKey k e.1

def hasRepeatedKey : List (Tree × Tree) → Bool
  | [] => false
  | (k, _) :: r => hasKey k r || hasRepeatedKey r

/-- Adds the pairs whose key is not there yet. -/
def addMissing (es : List (Tree × Tree)) (more : List (Tree × Tree)) : List (Tree × Tree) :=
  more.foldl (fun es e => if hasKey e.1 es then es else es ++ [e]) es

/-- The pairs of a map with what it merges. -/
def pairs (es : List (Tree × Tree)) : Except ReadError (List (Tree × Tree)) := do
  let (own, merged) ← splitPairs es
  if hasRepeatedKey own then throw (.repeated "") else return addMissing own merged

mutual

def depth : Tree → Nat
  | .scalar _ => 0
  | .seq items => itemsDepth items + 1
  | .map es _ => pairsDepth es + 1

def itemsDepth : List Tree → Nat
  | [] => 0
  | t :: r => max (depth t) (itemsDepth r)

def pairsDepth : List (Tree × Tree) → Nat
  | [] => 0
  | (k, v) :: r => max (max (depth k) (depth v)) (pairsDepth r)

end

/-- The tree with every map merged; merging never makes a tree deeper. -/
def mergedTo : Nat → Tree → Except ReadError Tree
  | 0, t => .ok t
  | _ + 1, .scalar s => .ok (.scalar s)
  | fuel + 1, .seq items => do return .seq (← items.mapM (mergedTo fuel))
  | fuel + 1, .map es _ => do
    let all ← pairs es
    return .map (← all.mapM fun e => do return (← mergedTo fuel e.1, ← mergedTo fuel e.2))
      (es.any fun e => isMergeKey e.1)

def merged (t : Tree) : Except ReadError Tree := mergedTo (depth t + 1) t

end SchemaDdl.Yaml.Tree
