/-!
# Text between quotation marks

SQL writes a name between backquotes and a text between single quotes, and a
mark that belongs to the content is written twice. `encode` writes the content
and `wrap` puts the marks around it; `read?` reads one quoted text from the
front of a longer one and returns what is left. A mark that is not doubled ends
the text, so what follows a quoted text must not begin with the mark, and under
that condition `read?` undoes `wrap`.
-/

namespace SchemaDdl.Text.Quoted

def encode (q : Char) : List Char → List Char
  | [] => []
  | c :: r => if c = q then q :: q :: encode q r else c :: encode q r

def wrap (q : Char) (cs : List Char) : List Char := q :: encode q cs ++ [q]

/-- The content up to the closing mark, and what stands behind the mark. -/
def readBody (q : Char) : List Char → Option (List Char × List Char)
  | [] => none
  | [c] => if c = q then some ([], []) else none
  | c :: d :: r =>
    if c = q then
      if d = q then (readBody q r).map fun p => (q :: p.1, p.2) else some ([], d :: r)
    else (readBody q (d :: r)).map fun p => (c :: p.1, p.2)

def read? (q : Char) : List Char → Option (List Char × List Char)
  | [] => none
  | c :: r => if c = q then readBody q r else none

end SchemaDdl.Text.Quoted
