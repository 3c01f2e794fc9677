/-!
# Lines and pieces

A text is cut at every occurrence of a mark. Cut at line feeds it gives lines:
a carriage return before the feed belongs to the line end, and nothing behind
the last line feed is no line.
-/

namespace SchemaDdl.Text

/-- The pieces between the marks; there is one more of them than of marks. -/
def pieces (mark : Char) : List Char → List (List Char)
  | [] => [[]]
  | c :: r =>
    if c = mark then [] :: pieces mark r
    else match pieces mark r with
      | [] => [[c]]
      | p :: ps => (c :: p) :: ps

def dropCarriageReturn (line : List Char) : List Char :=
  if line.getLast? = some '\r' then line.dropLast else line

def lines (cs : List Char) : List (List Char) :=
  let ps := pieces '\n' cs
  let ended := ps.dropLast.map dropCarriageReturn
  match ps.getLast? with
  | none | some [] => ended
  | some p => ended ++ [p]

end SchemaDdl.Text
