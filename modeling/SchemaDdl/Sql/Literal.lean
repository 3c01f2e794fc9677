import SchemaDdl.Number.Layout
import SchemaDdl.Schema.Value
import SchemaDdl.Text.Quoted

/-!
# Default values as SQL literals

Every default is written between single quotes, whatever its kind. Numbers are
written out in full, never with an exponent, and a whole number has no
fraction.
-/

namespace SchemaDdl.Sql

def numberLayout : NumberLayout where
  positional := none
  wholeFraction := false
  mantissaFraction := false
  tie := .up

def textMark : Char := '\x27'

def literalText : DefaultValue → String
  | .bool b => if b then "1" else "0"
  | .integer n => toString n.toInt
  | .float d => numberLayout.text d
  | .text s => s

def literal (v : DefaultValue) : String :=
  .ofList (Text.Quoted.wrap textMark (literalText v).toList)

end SchemaDdl.Sql
