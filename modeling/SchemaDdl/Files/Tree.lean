import SchemaDdl.Files.Access
import SchemaDdl.OrderedMap

/-!
# A tree of files

A file system as a value. Every entry is stored under the list of names that
lead to it from the root, and a path is followed one step at a time: each step
starts from a directory that must be there, a dot stays, two dots go up, and a
name goes down. So a path through a missing directory leads nowhere even if its
next step would leave that directory again.
-/

namespace SchemaDdl

inductive FileEntry where
  | text (content : String)
  | directory
deriving DecidableEq

inductive FileFailure where
  | missing
  | notDirectory
  | isDirectory
  | alreadyThere
  | nameTooLong
  | badName
deriving DecidableEq

def FileFailure.message : FileFailure → String
  | missing => "no such file or directory"
  | notDirectory => "not a directory"
  | isDirectory => "is a directory"
  | alreadyThere => "already exists"
  | nameTooLong => "file name too long"
  | badName => "file name contains a null character"

structure FileTree where
  /-- The directory from which relative paths start. -/
  directory : List String := []
  entries : OrderedMap FileEntry := {}

namespace FileTree

def maxNameBytes : Nat := 255

def maxPathBytes : Nat := 4095

/-- The absolute path of an entry. -/
def spelled (names : List String) : String := "/" ++ String.intercalate "/" names

def entry? (t : FileTree) (names : List String) : Option FileEntry :=
  if names.isEmpty then some .directory else t.entries.get? (spelled names)

def set (t : FileTree) (names : List String) (e : FileEntry) : FileTree :=
  { t with entries := t.entries.insert (spelled names) e }

/-- Where a step leads from a directory. -/
def next (names : List String) (step : String) : Except FileFailure (List String) :=
  if Path.isIdle step then .ok names
  else if step = ".." then .ok names.dropLast
  else if maxNameBytes < step.utf8ByteSize then .error .nameTooLong
  else .ok (names ++ [step])

def follow (t : FileTree) (names : List String) (step : String) :
    Except FileFailure (List String) :=
  match t.entry? names with
  | none => .error .missing
  | some (.text _) => .error .notDirectory
  | some .directory => next names step

def check (path : String) : Except FileFailure Unit :=
  if path.toList.contains '\x00' then .error .badName
  else if maxPathBytes < path.utf8ByteSize then .error .nameTooLong
  else .ok ()

def origin (t : FileTree) (path : String) : List String :=
  if Path.isAbsolute path then [] else t.directory

/-- The names that a path leads to; the last of them need not be there. -/
def locate (t : FileTree) (path : String) : Except FileFailure (List String) := do
  check path
  if path = "" then throw .missing
  (Path.steps path).foldlM t.follow (t.origin path)

def find (t : FileTree) (path : String) : Except FileFailure FileEntry := do
  match t.entry? (← t.locate path) with
  | some e => return e
  | none => throw .missing

def isPresent (t : FileTree) (path : String) : Bool := (t.find path).isOk

def read (t : FileTree) (path : String) : Except FileFailure String := do
  match ← t.find path with
  | .text content => return content
  | .directory => throw .isDirectory

def write (t : FileTree) (path content : String) : Except FileFailure FileTree := do
  let names ← t.locate path
  match t.entry? names with
  | some .directory => throw .isDirectory
  | _ => return t.set names (.text content)

def copy (t : FileTree) (source target : String) : Except FileFailure FileTree := do
  t.write target (← t.read source)

/-- Makes one directory, in one that must be there; slashes may follow its name. -/
def makeDirectory (t : FileTree) (path : String) : Except FileFailure FileTree := do
  check path
  if path = "" then throw .missing
  let steps := ((Path.steps path).reverse.dropWhile (· = "")).reverse
  let names ← steps.foldlM t.follow (t.origin path)
  if (t.entry? names).isSome then throw .alreadyThere
  return t.set names .directory

/-- Makes one directory unless it is there. -/
def ensureDirectory (t : FileTree) (path : String) : Except FileFailure Unit × FileTree :=
  match t.makeDirectory path with
  | .ok t => (.ok (), t)
  | .error e =>
    match t.find path with
    | .ok .directory => (.ok (), t)
    | _ => (.error e, t)

/-- Makes the directories above a path first where one of them is missing; `fuel` counts the steps up. -/
def makeFrom : Nat → FileTree → String → Except FileFailure Unit × FileTree
  | 0, t, _ => (.error .missing, t)
  | fuel + 1, t, path =>
    if path = "" then (.ok (), t)
    else match t.ensureDirectory path with
      | (.error .missing, t) =>
        match Path.parent? path with
        | none => (.error .missing, t)
        | some parent =>
          match makeFrom fuel t parent with
          | (.ok (), t) => t.ensureDirectory path
          | failed => failed
      | result => result

/-- Makes a directory and those above it; what was made before a failure stays. -/
def makeDirectories (t : FileTree) (path : String) : Except FileFailure Unit × FileTree :=
  makeFrom ((Path.steps path).length + 1) t path

/-- The tree with nothing but a directory, from which relative paths start. -/
def ofDirectory (path : String) : FileTree :=
  let t := (FileTree.makeDirectories {} path).2
  { t with directory := (Path.steps path).filter fun s => !Path.isIdle s }

/-- The files below a directory with their contents, in the order of their paths. -/
def filesBelow (t : FileTree) (names : List String) : List (String × String) :=
  let above := (spelled names).toList ++ if names.isEmpty then [] else ['/']
  let files := t.entries.entries.filterMap fun e =>
    match e.2 with
    | .directory => none
    | .text content =>
      let path := e.1.toList
      if above.isPrefixOf path then some (String.ofList (path.drop above.length), content) else none
  files.mergeSort fun a b => decide (a.1 ≤ b.1)

/-- A change that failed leaves the tree as it was. -/
def changed (t : FileTree) : Except FileFailure FileTree → Except String Unit × FileTree
  | .ok t => (.ok (), t)
  | .error e => (.error e.message, t)

instance : FileAccess (StateM FileTree) where
  isPresent path t := (t.isPresent path, t)
  read path t := ((t.read path).mapError FileFailure.message, t)
  write path content t := t.changed (t.write path content)
  makeDirectories path t :=
    let (result, t) := t.makeDirectories path
    (result.mapError FileFailure.message, t)
  copy source target t := t.changed (t.copy source target)

end FileTree

end SchemaDdl
