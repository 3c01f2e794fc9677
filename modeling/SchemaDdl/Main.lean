import SchemaDdl.Cli.Run
import SchemaDdl.ConstraintName.Seeded
import Std.Time

/-!
# The program

The outer layer: files are those of the disk, the clock is the system's, names
come from a random seed, and colours are used on a terminal. What was noted on
the way goes to the error stream before the result is written, warnings and
failures always and the rest if it was asked for.
-/

namespace SchemaDdl.Cli

def attempt {α : Type} (action : IO α) : IO (Except String α) := do
  try return .ok (← action) catch e => return .error (toString e)

instance : FileAccess IO where
  isPresent path := do ((← IO.currentDir) / path).pathExists
  read path := attempt (IO.FS.readFile path)
  write path content := attempt (IO.FS.writeFile path content)
  makeDirectories path := attempt (if path = "" then pure () else IO.FS.createDirAll path)
  copy source target := attempt do IO.FS.writeBinFile target (← IO.FS.readBinFile source)

def seedOfBytes (bytes : ByteArray) : UInt64 :=
  bytes.foldl (fun seed b => seed <<< 8 ||| b.toUInt64) 0

def wantsColor : IO Bool := do
  return (← (← IO.getStdout).isTty) && (← IO.getEnv "NO_COLOR").isNone

def environment : IO (Environment NoServer) := do
  return {
    directory := (← IO.currentDir).toString
    color := ← wantsColor
    seconds := (← Std.Time.Timestamp.now).toSecondsSinceUnixEpoch.val
    names := ConstraintName.seeded (seedOfBytes (← IO.getRandomBytes 8))
    server := .unreachable }

def isVerbose (args : List String) : Bool :=
  match Request.ofArguments args with
  | .run a => a.verbose
  | _ => false

def isShown (verbose : Bool) : Level → Bool
  | .debug | .info => verbose
  | .warning | .failure => true

def noteLine (n : Note) : String :=
  n.level.name ++ " " ++ n.message ++
    String.join (n.details.map fun d => " " ++ d.1 ++ "=" ++ d.2)

end SchemaDdl.Cli

open SchemaDdl Cli in
def main (args : List String) : IO UInt32 := do
  let outcome ← run (← environment) args
  for note in outcome.notes do
    if isShown (isVerbose args) note.level then IO.eprintln (noteLine note)
  if outcome.output ≠ "" then IO.println outcome.output
  if let some message := outcome.error then IO.eprintln message
  return .ofNat outcome.code
