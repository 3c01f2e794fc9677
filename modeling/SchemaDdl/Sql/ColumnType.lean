import SchemaDdl.Schema.Error
import SchemaDdl.Schema.Field

/-!
# Column types

A field names one of sixteen abstract types (two names mean the same one), and
each is a column type of the database. Types of long texts take a size word
from their length, and lengths that are numbers are written in parentheses,
with a standard length for the types that want one. A length of zero means no
parentheses.
-/

namespace SchemaDdl

inductive AbstractType where
  | smallInt | int | bigInt | decimal | float | string | char | binary
  | text | blob | array | json | boolean | date | dateTime | time
deriving DecidableEq

namespace AbstractType

def ofName? : String → Option AbstractType
  | "smallint" => some smallInt
  | "int" | "integer" => some int
  | "bigint" => some bigInt
  | "decimal" => some decimal
  | "float" => some float
  | "string" => some string
  | "char" => some char
  | "binary" => some binary
  | "text" => some text
  | "blob" => some blob
  | "array" => some array
  | "json" => some json
  | "boolean" => some boolean
  | "date" => some date
  | "datetime" => some dateTime
  | "time" => some time
  | _ => none

def ofName (name : String) : Except SchemaError AbstractType :=
  match ofName? name with
  | some t => .ok t
  | none => .error (.unsupportedType name none)

/-- The types whose length may be a size word. -/
def isTextFamily : AbstractType → Bool
  | text | blob | array | json => true
  | _ => false

/-- The types whose column has a collation. -/
def isCollatable : AbstractType → Bool
  | string | char | text | array | json => true
  | _ => false

def baseName : AbstractType → String
  | smallInt => "SMALLINT"
  | int => "INT"
  | bigInt => "BIGINT"
  | decimal => "NUMERIC"
  | float => "DOUBLE"
  | string => "VARCHAR"
  | char => "CHAR"
  | binary => "VARBINARY"
  | text | array | json => "TEXT"
  | blob => "BLOB"
  | boolean => "TINYINT"
  | date => "DATE"
  | dateTime => "DATETIME"
  | time => "TIME"

def sizeWord : Option Length → String
  | some (.modifier "tiny") => "TINY"
  | some (.modifier "medium") => "MEDIUM"
  | some (.modifier "long") => "LONG"
  | _ => ""

def sqlName (t : AbstractType) (length : Option Length) : String :=
  if t.isTextFamily then sizeWord length ++ t.baseName else t.baseName

/-- The length of a type that was given none of use. -/
def standardLength (t : AbstractType) (length : Option Length) : Option String :=
  match t with
  | string | char => some "255"
  | int => some "11"
  | boolean => some "1"
  | decimal | float =>
    match length with
    | some (.precision p s) => some (toString p.toNat ++ ", " ++ toString s.toNat)
    | _ => some "0, 0"
  | _ => none

/-- A length that is a number always counts, and zero asks for no parentheses. -/
def writtenLength (t : AbstractType) (length : Option Length) : Option String :=
  match length >>= Length.asSize with
  | some n => if n = 0 then none else some (toString n.toNat)
  | none => t.standardLength length

end AbstractType

/-- A field with its type in the database. -/
structure TypedField where
  type : AbstractType
  sqlName : String
  length : Option String
  field : Field
deriving DecidableEq

namespace TypedField

def ofField (f : Field) : Except SchemaError TypedField := do
  let t ← AbstractType.ofName f.typeName
  let f := f.coerced
  return ⟨t, t.sqlName f.length, t.writtenLength f.length, f⟩

def typeText (t : TypedField) : String :=
  match t.length with
  | some l => t.sqlName ++ "(" ++ l ++ ")"
  | none => t.sqlName

end TypedField

end SchemaDdl
