import SchemaDdl.Sql.ColumnType
import SchemaDdl.Sql.Literal
import SchemaDdl.Text.Quoted

/-!
# Names and the lines of a table

MySQL writes a name between backquotes. Lists of columns are joined by commas
without blanks, and the index of a column is named after it.

The line of a column in a table: its name and type, and behind them whatever
the field asks for, each part with a blank before it. A null field asks for the
default null, a field that is not null forbids it, and a field that says
neither leaves it to the database.
-/

namespace SchemaDdl.Sql

/-! ## Quoted names -/

/-- The mark around a name. -/
def nameMark : Char := '\x60'

def quoteName (name : String) : String := .ofList (Text.Quoted.wrap nameMark name.toList)

def quoteNames (names : List String) : String := String.intercalate "," (names.map quoteName)

def indexName (column : String) : String := "IDX_" ++ column

/-! ## Lines -/

def nullPart : Option Bool → String
  | some true => " DEFAULT NULL"
  | some false => " NOT NULL"
  | none => ""

def defaultPart : Option DefaultValue → String
  | some v => " DEFAULT " ++ literal v
  | none => ""

def columnLine (name : String) (t : TypedField) (collate : String) : String :=
  quoteName name ++ " " ++ t.typeText ++
    (if t.type.isCollatable then " COLLATE " ++ collate else "") ++
    (if t.field.unsigned = some true then " unsigned" else "") ++
    nullPart t.field.nullable ++
    defaultPart t.field.defaultValue ++
    (if t.field.isAutoIncrement then " AUTO_INCREMENT" else "")

def indexLine (column : String) (unique : Bool) : String :=
  (if unique then "UNIQUE KEY" else "KEY") ++ " " ++ quoteName (indexName column) ++
    " (" ++ quoteName column ++ ")"

def primaryKeyLine (columns : List String) : String :=
  "PRIMARY KEY (" ++ quoteNames columns ++ ")"

end SchemaDdl.Sql
