import SchemaDdl.Text.Lines

/-!
# Paths

A path is a text, and its steps are what stands between the slashes. Nothing is
looked up here: an empty step and a single dot lead nowhere, two dots lead up,
and whether any of it exists is for the files themselves to say. Messages show a
path as it was put together, so joining does not tidy it.
-/

namespace SchemaDdl.Path

def isAbsolute (path : String) : Bool := path.toList.head? = some '/'

/-- The second path seen from the first; a path that begins with a slash stands for itself. -/
def join (base path : String) : String :=
  if isAbsolute path then path
  else if base = "" || base.toList.getLast? = some '/' then base ++ path
  else base ++ "/" ++ path

def steps (path : String) : List String := (Text.pieces '/' path.toList).map .ofList

/-- Whether a step leads nowhere. -/
def isIdle (step : String) : Bool := step = "" || step = "."

def dropIdleEnd (steps : List String) : List String := (steps.reverse.dropWhile isIdle).reverse

/-- The path without its last step. The first step is kept apart, because an empty one is the root. -/
def parent? (path : String) : Option String :=
  match steps path with
  | [] => none
  | first :: rest =>
    match dropIdleEnd rest with
    | [] => if first = "" then none else some ""
    | names =>
      match dropIdleEnd names.dropLast with
      | [] => some (if first = "" then "/" else first)
      | upper => some (String.intercalate "/" (first :: upper))

def fileName? (path : String) : Option String :=
  match (dropIdleEnd (steps path)).getLast? with
  | some ".." => none
  | name => name

/-- What stands behind the last dot of the file name, unless the name begins with that dot. -/
def extension? (path : String) : Option String := do
  let name := (← fileName? path).toList
  let behind := (name.reverse.takeWhile (· ≠ '.')).reverse
  if name.length ≤ behind.length + 1 then none else some (.ofList behind)

end SchemaDdl.Path
