/-!
# White space

White space is what has the property of that name in the Unicode tables: the
ASCII blanks and line ends, the next-line control, the no-break space and the
spaces of fixed widths. A length given as a text is trimmed by it, and a
comment may be indented by it.
-/

namespace SchemaDdl.Text

def isBlank (c : Char) : Bool :=
  let n := c.toNat
  (0x09 ≤ n && n ≤ 0x0d) || n = 0x20 || n = 0x85 || n = 0xa0 || n = 0x1680 ||
    (0x2000 ≤ n && n ≤ 0x200a) || n = 0x2028 || n = 0x2029 || n = 0x202f || n = 0x205f || n = 0x3000

def trimStart (cs : List Char) : List Char := cs.dropWhile isBlank

def trimEnd (cs : List Char) : List Char := (cs.reverse.dropWhile isBlank).reverse

def trim (cs : List Char) : List Char := trimEnd (trimStart cs)

/-- An ASCII letter in lower case; any other character as it is. -/
def lowerAscii (s : String) : String := .ofList (s.toList.map Char.toLower)

end SchemaDdl.Text
