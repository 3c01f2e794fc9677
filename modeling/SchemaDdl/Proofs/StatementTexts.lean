import SchemaDdl.Proofs.ConstraintTexts

/-!
# What the texts of a script say

A database gets texts, and what they make it do is decided by the words and names
that it reads in them. Statements that are sent are of four kinds, told apart by
their first letter, and `readCommand?` reads each of them as far as tables are
concerned: which one is dropped, which one is created, and which constraints are
added to which. Names are read as `QuotedNames` has it, so they may contain
whatever they like. `readCommand?_text` says that a statement is read as what it
is, and a comment as nothing.

Of the lines that a table is created from, two kinds are about a single column.
The line of an index is read back. The line of a column is its name, its type,
whatever else its field asks for, and at the end the word by which it counts up.
-/

namespace SchemaDdl.Sql

/-! ## Statements -/

/-- What a text tells the database to do. -/
inductive Command where
  | setChecks (on : Bool)
  | drop (table : String)
  | create (table : String)
  | constrain (table : String) (clauses : List ForeignKeyClause)
deriving DecidableEq

def readChecks? (text : String) : Option Bool := do
  let rest ← readWord? "SET FOREIGN_KEY_CHECKS=" text.toList
  if rest = "0;".toList then some false else if rest = "1;".toList then some true else none

def readDrop? (text : String) : Option String := do
  let rest ← readWord? "DROP TABLE IF EXISTS " text.toList
  let (table, rest) ← readName? rest
  if rest = ";".toList then some table else none

/-- The table that the text creates, whatever it is created from. -/
def readCreate? (text : String) : Option String := do
  let rest ← readWord? "CREATE TABLE IF NOT EXISTS " text.toList
  let (table, rest) ← readName? rest
  (readWord? " (\n" rest).map fun _ => table

def readCommand? (text : String) : Option Command :=
  match text.toList.head? with
  | some 'S' => (readChecks? text).map .setChecks
  | some 'D' => (readDrop? text).map .drop
  | some 'C' => (readCreate? text).map .create
  | some 'A' => (readAddition? text).map fun a => .constrain a.1 a.2
  | _ => none

theorem readChecks?_text (on : Bool) : readChecks? (checksText on) = some on := by
  cases on <;> rfl

theorem readDrop?_text (table : String) : readDrop? (dropTableText table) = some table := by
  have hname : readName? ((quoteName table).toList ++ ";".toList) = some (table, ";".toList) :=
    readName?_eq_some_iff.2 ⟨rfl, by decide⟩
  delta dropTableText
  rw [readDrop?, String.toList_append, String.toList_append, List.append_assoc, readWord?_append,
    Option.bind_eq_bind, Option.bind_some, hname, Option.bind_eq_bind, Option.bind_some]
  exact if_pos rfl

theorem readCreate?_text (table : String) (body : List String) (s : Settings)
    (autoIncrement : Bool) :
    readCreate? (createTableText table body s autoIncrement) = some table := by
  delta createTableText
  simp only [readCreate?, String.toList_append, List.append_assoc]
  simp (disch := decide) only [↓readWord?_append_bind, ↓readName?_append_bind]
  rw [readWord?_append]
  rfl

/-! ### First letters -/

theorem head?_append {x : String} {c : Char} (h : x.toList.head? = some c) (y : String) :
    (x ++ y).toList.head? = some c := by
  rw [String.toList_append, List.head?_append, h]
  rfl

theorem head?_checksText (on : Bool) : (checksText on).toList.head? = some 'S' := by
  delta checksText
  rw [String.append_assoc]
  exact head?_append (by decide) _

theorem head?_dropTableText (table : String) : (dropTableText table).toList.head? = some 'D' := by
  delta dropTableText
  rw [String.append_assoc]
  exact head?_append (by decide) _

theorem head?_createTableText (table : String) (body : List String) (s : Settings)
    (autoIncrement : Bool) :
    (createTableText table body s autoIncrement).toList.head? = some 'C' := by
  delta createTableText
  simp only [String.append_assoc]
  exact head?_append (by decide) _

theorem head?_addConstraintsText (table : String) (clauses : List ForeignKeyClause) :
    (addConstraintsText table clauses).toList.head? = some 'A' := by
  delta addConstraintsText
  simp only [String.append_assoc]
  exact head?_append (by decide) _

theorem head?_dropConstraintsText (table : String) (names : List String) :
    (dropConstraintsText table names).toList.head? = some 'A' := by
  delta dropConstraintsText
  simp only [String.append_assoc]
  exact head?_append (by decide) _

namespace Statement

/-- What the statement tells the database to do. -/
def command? : Statement → Option Command
  | foreignKeyChecks on => some (.setChecks on)
  | comment _ => none
  | dropTable table => some (.drop table)
  | createTable layout => some (.create layout.name)
  | addConstraints table clauses => some (.constrain table clauses)
  | dropConstraints _ _ => none

/-- The statement may stand in a script: a comment begins with a dash, and a table is altered for
the sake of some constraint. -/
def IsLegible : Statement → Prop
  | comment line => line.toList.head? = some '-'
  | addConstraints _ clauses => clauses ≠ []
  | dropConstraints _ _ => False
  | _ => True

theorem readCommand?_text {st : Statement} (h : st.IsLegible) :
    readCommand? st.text = st.command? := by
  cases st with
  | foreignKeyChecks on =>
      rw [text, readCommand?, head?_checksText, readChecks?_text]
      rfl
  | comment line =>
      have hhead : line.toList.head? = some '-' := h
      rw [text, readCommand?, hhead]
      rfl
  | dropTable table =>
      rw [text, readCommand?, head?_dropTableText, readDrop?_text]
      rfl
  | createTable layout =>
      rw [text, TableLayout.text, readCommand?, head?_createTableText, readCreate?_text]
      rfl
  | addConstraints table clauses =>
      rw [text, readCommand?, head?_addConstraintsText, readAddition?_text h]
      rfl
  | dropConstraints table names => exact h.elim

end Statement

/-! ## Lines -/

/-- The column of which the text names the index, up to the end of the line. -/
def readIndexed? (text : List Char) : Option String := do
  let (name, rest) ← readName? text
  let rest ← readWord? " (" rest
  let (column, rest) ← readName? rest
  if name = "IDX_" ++ column ∧ rest = ")".toList then some column else none

def readIndexLine? (line : String) : Option Index :=
  match readWord? "UNIQUE KEY " line.toList with
  | some rest => (readIndexed? rest).map fun column => ⟨column, true⟩
  | none => (readWord? "KEY " line.toList >>= readIndexed?).map fun column => ⟨column, false⟩

theorem readIndexed?_text (column : String) :
    readIndexed? ((quoteName (indexName column)).toList ++
      (" (".toList ++ ((quoteName column).toList ++ ")".toList))) = some column := by
  have hcolumn : readName? ((quoteName column).toList ++ ")".toList) =
      some (column, ")".toList) := readName?_eq_some_iff.2 ⟨rfl, by decide⟩
  rw [readIndexed?]
  simp (disch := decide) only [↓readWord?_append_bind, ↓readName?_append_bind]
  rw [hcolumn, Option.bind_eq_bind, Option.bind_some]
  exact if_pos ⟨rfl, rfl⟩

theorem readIndexLine?_text (i : Index) : readIndexLine? (indexLine i.column i.unique) = some i := by
  obtain ⟨column, unique⟩ := i
  have hline : (indexLine column unique).toList =
      (if unique then "UNIQUE KEY " else "KEY ").toList ++
        ((quoteName (indexName column)).toList ++
          (" (".toList ++ ((quoteName column).toList ++ ")".toList))) := by
    delta indexLine
    simp only [String.toList_append, List.append_assoc]
    cases unique <;> rfl
  rw [readIndexLine?, hline]
  cases unique with
  | true =>
      rw [if_pos rfl, readWord?_append]
      simp only [readIndexed?_text, Option.map_some]
  | false =>
      have hunique : ∀ rest, readWord? "UNIQUE KEY " ("KEY ".toList ++ rest) = none := fun _ => rfl
      rw [if_neg Bool.false_ne_true, hunique, readWord?_append]
      simp only [Option.bind_eq_bind, Option.bind_some, readIndexed?_text, Option.map_some]

/-- What the line of a column says between its type and the word by which it counts up. -/
def attributes (t : TypedField) (collate : String) : String :=
  (if t.type.isCollatable then " COLLATE " ++ collate else "") ++
    (if t.field.unsigned = some true then " unsigned" else "") ++
    nullPart t.field.nullable ++ defaultPart t.field.defaultValue

theorem columnLine_eq (name : String) (t : TypedField) (collate : String) :
    columnLine name t collate =
      quoteName name ++ " " ++ t.typeText ++ attributes t collate ++
        if t.field.isAutoIncrement then " AUTO_INCREMENT" else "" := by
  simp only [columnLine, attributes, String.append_assoc]

end SchemaDdl.Sql
