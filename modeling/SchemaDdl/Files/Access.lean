import SchemaDdl.Files.Path

/-!
# Access to files

The program asks of a file system whether a path is there, and for reading,
writing, copying and making directories. Which file system it is does not
matter to it, so the questions are a class of monads: the outer layer answers
them from the disk, and a `FileTree` answers them without one. A failure comes
with the reason that the file system gives.
-/

namespace SchemaDdl

/-! ## What can go wrong -/

inductive FileError where
  | notFound (path : String)
  | read (path cause : String)
  | write (path cause : String)
  | createDirectory (path cause : String)
deriving DecidableEq

def FileError.message : FileError → String
  | notFound path => "File not found: " ++ path
  | read path cause => "Failed to read file: " ++ path ++ " (cause: " ++ cause ++ ")"
  | write path cause => "Failed to write file: " ++ path ++ " (cause: " ++ cause ++ ")"
  | createDirectory path cause =>
    "Failed to create directory: " ++ path ++ " (cause: " ++ cause ++ ")"

/-! ## Requests -/

class FileAccess (m : Type → Type) where
  isPresent : String → m Bool
  read : String → m (Except String String)
  write : String → String → m (Except String Unit)
  /-- Makes a directory and those above it; one that is there already is no failure. -/
  makeDirectories : String → m (Except String Unit)
  copy : String → String → m (Except String Unit)

namespace FileAccess

variable {m : Type → Type} [Monad m] [FileAccess m]

/-- The content of a file, with a missing file told apart from an unreadable one. -/
def contentOf (path : String) : m (Except FileError String) := do
  if !(← isPresent path) then return .error (.notFound path)
  match ← read path with
  | .ok content => return .ok content
  | .error cause => return .error (.read path cause)

/-- Writes a file and makes the directories above it. -/
def store (path content : String) : m (Except FileError Unit) := do
  if let some parent := Path.parent? path then
    if let .error cause ← makeDirectories parent then
      return .error (.createDirectory parent cause)
  match ← write path content with
  | .ok () => return .ok ()
  | .error cause => return .error (.write path cause)

def duplicate (source target : String) : m (Except FileError Unit) := do
  match ← copy source target with
  | .ok () => return .ok ()
  | .error cause => return .error (.write target cause)

end FileAccess

end SchemaDdl
