import SchemaDdl.Text.Blank

/-!
# Folding a long text into lines

A long text without line ends is broken at white space, so that a reader who
joins the lines by one blank each gets the text back. A run of white space is a
place to break: the line keeps the run but for its last character, which the
line end stands for.

The text is walked once. A line is broken as soon as more than eighty
characters have passed since the last break, at the run that the walk is in or
else at the last one before it; without a run the line grows until there is
one. After a break the count begins again at the next character, wherever the
new line began.
-/

namespace SchemaDdl.Yaml.Folding

def width : Nat := 80

/-- A run of white space, from its first character to the one behind it. -/
structure Run where
  start : Nat
  stop : Nat

structure State where
  /-- Where each finished line begins and ends, the last one first. -/
  lines : List (Nat × Nat) := []
  /-- Where the current line begins. -/
  start : Nat := 0
  passed : Nat := 0
  /-- The last run that has ended. -/
  last : Option Run := none
  /-- The run that the walk is in. -/
  current : Option Run := none

namespace State

/-- Takes note of the character with the index. -/
def see (s : State) (index : Nat) (c : Char) : State :=
  if Text.isBlank c then
    { s with
      current := some ⟨(s.current.map Run.start).getD index, index + 1⟩
      passed := s.passed + 1 }
  else
    { s with last := s.current <|> s.last, current := none, passed := s.passed + 1 }

/-- The run to break at, when the characters after the current one are `after`. -/
def candidate? (s : State) (after : List Char) : Option Run :=
  let run := match s.current with
    | some run => some { run with stop := run.stop + (after.takeWhile Text.isBlank).length }
    | none => s.last
  run.filter fun run => s.start ≤ run.start

def breakAt (s : State) (run : Run) : State :=
  { lines := (s.start, run.stop - 1) :: s.lines, start := run.stop }

def step (s : State) (index : Nat) (c : Char) (after : List Char) : State :=
  let s := s.see index c
  if width < s.passed then
    match s.candidate? after with
    | some run => s.breakAt run
    | none => s
  else s

def walk (s : State) (index : Nat) : List Char → State
  | [] => s
  | c :: r => (s.step index c r).walk (index + 1) r

end State

def slice (cs : List Char) (start stop : Nat) : List Char := (cs.take stop).drop start

def lines (cs : List Char) : List (List Char) :=
  let s := State.walk {} 0 cs
  (s.lines.reverse.map fun l => slice cs l.1 l.2) ++ [cs.drop s.start]

end SchemaDdl.Yaml.Folding
