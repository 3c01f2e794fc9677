import SchemaDdl.Schema.Relation
import SchemaDdl.Schema.Settings
import SchemaDdl.Sql.Column
import SchemaDdl.Text.Blank
import SchemaDdl.Text.Lines

/-!
# Statements

A script is a list of statements, and a statement is data: which table is
dropped, which columns, indexes and key a table is created with, which
constraints are added. The text is made from it by `Statement.text`, and the
script says nothing that the data does not. Comments are statements of their
own, a line each.

What is sent to the database are the statements that are not comments, and this
is told from their texts alone. A text is a comment when each of its lines is
one, that is, begins with two dashes after white space; a text without lines is
a comment too.
-/

namespace SchemaDdl.Sql

/-- A column of a table that is created, with the field that it renders. -/
structure Column where
  name : String
  typed : TypedField
deriving DecidableEq

structure Index where
  column : String
  unique : Bool
deriving DecidableEq

structure TableLayout where
  name : String
  columns : List Column
  indexes : List Index
  primaryKey : List String
  settings : Settings
deriving DecidableEq

/-- A constraint to be added, its tables under their names in the database. -/
structure ForeignKeyClause where
  name : String
  column : String
  referencedTable : String
  referencedColumn : String
  onDelete : ReferentialAction
  onUpdate : ReferentialAction
deriving DecidableEq

inductive Statement where
  | foreignKeyChecks (on : Bool)
  | comment (line : String)
  | dropTable (table : String)
  | createTable (layout : TableLayout)
  | addConstraints (table : String) (clauses : List ForeignKeyClause)
  | dropConstraints (table : String) (names : List String)
deriving DecidableEq

/-! ## Texts of statements -/

def checksText (on : Bool) : String := "SET FOREIGN_KEY_CHECKS=" ++ (if on then "1" else "0") ++ ";"

def dropTableText (table : String) : String := "DROP TABLE IF EXISTS " ++ quoteName table ++ ";"

/-- A table from the lines of its body, each on a line of its own. -/
def createTableText (table : String) (body : List String) (s : Settings) (autoIncrement : Bool) :
    String :=
  "CREATE TABLE IF NOT EXISTS " ++ quoteName table ++ " (\n" ++
    String.intercalate ",\n" (body.map ("  " ++ ·)) ++
    "\n) ENGINE=" ++ s.engine ++ " DEFAULT CHARSET=" ++ s.charset ++ " COLLATE=" ++ s.collate ++
    (if autoIncrement then " AUTO_INCREMENT=1" else "") ++ ";\n"

def clauseText (c : ForeignKeyClause) : String :=
  "  ADD CONSTRAINT " ++ quoteName c.name ++ " FOREIGN KEY (" ++ quoteName c.column ++
    ") REFERENCES " ++ quoteName c.referencedTable ++ " (" ++ quoteName c.referencedColumn ++
    ") ON DELETE " ++ c.onDelete.text ++ " ON UPDATE " ++ c.onUpdate.text

def addConstraintsText (table : String) (clauses : List ForeignKeyClause) : String :=
  "ALTER TABLE " ++ quoteName table ++ "\n" ++
    String.intercalate ",\n" (clauses.map clauseText) ++ ";\n"

def dropConstraintsText (table : String) (names : List String) : String :=
  "ALTER TABLE " ++ quoteName table ++ "\n" ++
    String.intercalate ",\n" (names.map (" DROP FOREIGN KEY " ++ quoteName ·)) ++ ";"

namespace TableLayout

def body (l : TableLayout) : List String :=
  l.columns.map (fun c => columnLine c.name c.typed l.settings.collate) ++
    l.indexes.map (fun i => indexLine i.column i.unique) ++
    if l.primaryKey.isEmpty then [] else [primaryKeyLine l.primaryKey]

def hasAutoIncrement (l : TableLayout) : Bool := l.columns.any fun c => c.typed.field.isAutoIncrement

def text (l : TableLayout) : String := createTableText l.name l.body l.settings l.hasAutoIncrement

end TableLayout

namespace Statement

def text : Statement → String
  | foreignKeyChecks on => checksText on
  | comment line => line
  | dropTable table => dropTableText table
  | createTable layout => layout.text
  | addConstraints table clauses => addConstraintsText table clauses
  | dropConstraints table names => dropConstraintsText table names

/-- A title between two empty comment lines. -/
def banner (title : String) : List Statement :=
  [comment "--", comment ("-- " ++ title), comment "--"]

def tableBanner (table : String) : List Statement :=
  banner ("Table structure for table \x60" ++ table ++ "\x60")

def constraintBanner (table : String) : List Statement :=
  banner ("Constraints for table \x60" ++ table ++ "\x60")

end Statement

/-! ## Comments -/

def isCommentLine (line : List Char) : Bool := ['-', '-'].isPrefixOf (Text.trimStart line)

def isComment (statement : String) : Bool := (Text.lines statement.toList).all isCommentLine

end SchemaDdl.Sql
