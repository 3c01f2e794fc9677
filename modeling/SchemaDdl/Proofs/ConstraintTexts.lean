import Mathlib.Data.List.Basic
import SchemaDdl.Compile.Script
import SchemaDdl.Proofs.QuotedNames

/-!
# Constraints are dropped under the names they were added with

Two scripts are made from one constraint index. One adds the constraints of each
table, below a banner, and the other drops them again, and each of them goes
through the index by itself. That they fit together is a matter of their texts:
the database knows a constraint by the name that it reads in a statement, and a
name may contain whatever else a statement is made of.

So both kinds of statements are read back here, as a table with a list of items,
where an item is a clause that adds a constraint or a name that is dropped. A
name ends where `QuotedNames` says it does, whatever it contains, and everything
between two names is a fixed word. `read_additions_removals` puts the two
readings side by side: the same tables in the same order, each with its stored
constraints, and the same names.
-/

namespace SchemaDdl

namespace Sql

variable {α : Type} {text rest : List Char}

/-! ## Reading a statement that alters a table -/

/-- What stands behind the word. -/
def readWord? (word : String) (text : List Char) : Option (List Char) :=
  if word.toList.isPrefixOf text then some (text.drop word.toList.length) else none

def readAction? (text : List Char) : Option (ReferentialAction × List Char) :=
  [ReferentialAction.cascade, .setNull, .restrict, .noAction].findSome? fun action =>
    (readWord? action.text text).map fun rest => (action, rest)

def readClause? (text : List Char) : Option (ForeignKeyClause × List Char) := do
  let text ← readWord? "  ADD CONSTRAINT " text
  let (name, text) ← readName? text
  let text ← readWord? " FOREIGN KEY (" text
  let (column, text) ← readName? text
  let text ← readWord? ") REFERENCES " text
  let (referencedTable, text) ← readName? text
  let text ← readWord? " (" text
  let (referencedColumn, text) ← readName? text
  let text ← readWord? ") ON DELETE " text
  let (onDelete, text) ← readAction? text
  let text ← readWord? " ON UPDATE " text
  let (onUpdate, text) ← readAction? text
  return (⟨name, column, referencedTable, referencedColumn, onDelete, onUpdate⟩, text)

def readDropped? (text : List Char) : Option (String × List Char) := do
  let text ← readWord? " DROP FOREIGN KEY " text
  readName? text

/-- The items that the text begins with, each but the last with a comma at the end of its line, and
what stands behind them. -/
def readItems? (item : List Char → Option (α × List Char)) (text : List Char) :
    Option (List α × List Char) :=
  match item text with
  | none => none
  | some (a, rest) =>
    match readWord? ",\n" rest with
    | none => some ([a], rest)
    | some more =>
      if more.length < text.length then (readItems? item more).map fun p => (a :: p.1, p.2)
      else none
termination_by text.length

/-- The table and the items of a whole statement. -/
def readAlteration? (item : List Char → Option (α × List Char)) (ending text : String) :
    Option (String × List α) := do
  let rest ← readWord? "ALTER TABLE " text.toList
  let (table, rest) ← readName? rest
  let rest ← readWord? "\n" rest
  let (items, rest) ← readItems? item rest
  if rest = ending.toList then some (table, items) else none

def readAddition? : String → Option (String × List ForeignKeyClause) :=
  readAlteration? readClause? ";\n"

def readRemoval? : String → Option (String × List String) := readAlteration? readDropped? ";"

/-! ## What was written is read -/

theorem readWord?_append (word : String) (rest : List Char) :
    readWord? word (word.toList ++ rest) = some rest := by
  rw [readWord?, if_pos (List.isPrefixOf_iff_prefix.2 (List.prefix_append _ _)), List.drop_left]

theorem readWord?_append_bind {β : Type} (word : String) (rest : List Char)
    (k : List Char → Option β) : (readWord? word (word.toList ++ rest) >>= k) = k rest := by
  rw [readWord?_append]
  rfl

/-- A word that a name cannot go on with ends it. -/
theorem readName?_append_bind {β : Type} {word : String} (hword : word.toList ≠ [])
    (h : word.toList.head? ≠ some nameMark) (name : String) (rest : List Char)
    (k : String × List Char → Option β) :
    (readName? ((quoteName name).toList ++ (word.toList ++ rest)) >>= k) =
      k (name, word.toList ++ rest) := by
  have hread : readName? ((quoteName name).toList ++ (word.toList ++ rest)) =
      some (name, word.toList ++ rest) :=
    readName?_eq_some_iff.2 ⟨rfl, by rwa [List.head?_append_of_ne_nil _ hword]⟩
  rw [hread]
  rfl

theorem readAction?_text (action : ReferentialAction) (rest : List Char) :
    readAction? (action.text.toList ++ rest) = some (action, rest) := by
  cases action <;> rfl

theorem readClause?_text (c : ForeignKeyClause) (rest : List Char) :
    readClause? ((clauseText c).toList ++ rest) = some (c, rest) := by
  delta clauseText
  simp only [readClause?, String.toList_append, List.append_assoc]
  simp (disch := decide) only [↓readWord?_append_bind, ↓readName?_append_bind]
  rw [readAction?_text]
  simp only [Option.bind_eq_bind, Option.bind_some, readWord?_append, readAction?_text]
  rfl

theorem readDropped?_text (h : rest.head? ≠ some nameMark) (name : String) :
    readDropped? ((" DROP FOREIGN KEY " ++ quoteName name).toList ++ rest) = some (name, rest) := by
  rw [readDropped?, String.toList_append, List.append_assoc, readWord?_append, Option.bind_eq_bind,
    Option.bind_some]
  exact readName?_eq_some_iff.2 ⟨rfl, h⟩

section Items

variable {item : List Char → Option (α × List Char)} {write : α → String} {items : List α} {a : α}

theorem readItems?_of_last (h : item text = some (a, rest)) (hlast : readWord? ",\n" rest = none) :
    readItems? item text = some ([a], rest) := by
  rw [readItems?, h]
  simp only [hlast]

theorem readItems?_of_more {more : List Char} (h : item text = some (a, rest))
    (hmore : readWord? ",\n" rest = some more) (hlength : more.length < text.length) :
    readItems? item text = (readItems? item more).map fun p => (a :: p.1, p.2) := by
  rw [readItems?, h]
  simp only [hmore, if_pos hlength]

/-- If items can be read one by one, a list of them can, before a text that goes on neither with the
last item nor with the list. -/
theorem readItems?_intercalate
    (hitem : ∀ a rest, rest.head? ≠ some nameMark →
      item ((write a).toList ++ rest) = some (a, rest))
    (hmark : rest.head? ≠ some nameMark) (hlast : readWord? ",\n" rest = none)
    (hne : items ≠ []) :
    readItems? item ((String.intercalate ",\n" (items.map write)).toList ++ rest) =
      some (items, rest) := by
  induction items with
  | nil => exact absurd rfl hne
  | cons a items ih =>
      by_cases hitems : items = []
      · rw [hitems, List.map_singleton, String.intercalate_singleton]
        exact readItems?_of_last (hitem a rest hmark) hlast
      · rw [List.map_cons, String.intercalate_cons_of_ne_nil (mt List.map_eq_nil_iff.1 hitems),
          String.toList_append, String.toList_append, List.append_assoc, List.append_assoc]
        -- The comma ends the item, and the text behind it is shorter by the comma at least.
        have hcut : (",\n".toList ++
            ((String.intercalate ",\n" (items.map write)).toList ++ rest)).head? ≠
              some nameMark := by
          rw [List.head?_append_of_ne_nil _ (by decide)]
          decide
        have hlength : 0 < ",\n".toList.length := by decide
        rw [readItems?_of_more (hitem a _ hcut) (readWord?_append _ _), ih hitems, Option.map_some]
        simp only [List.length_append]
        omega

theorem readAlteration?_text {ending : String}
    (hitem : ∀ a rest, rest.head? ≠ some nameMark →
      item ((write a).toList ++ rest) = some (a, rest))
    (hmark : ending.toList.head? ≠ some nameMark) (hlast : readWord? ",\n" ending.toList = none)
    (hne : items ≠ []) (table : String) :
    readAlteration? item ending ("ALTER TABLE " ++ quoteName table ++ "\n" ++
      String.intercalate ",\n" (items.map write) ++ ending) = some (table, items) := by
  have hitems := readItems?_intercalate hitem hmark hlast hne
  simp only [readAlteration?, String.toList_append, List.append_assoc]
  simp (disch := decide) only [↓readWord?_append_bind, ↓readName?_append_bind]
  rw [hitems]
  exact if_pos rfl

end Items

theorem readAddition?_text {clauses : List ForeignKeyClause} (h : clauses ≠ []) (table : String) :
    readAddition? (addConstraintsText table clauses) = some (table, clauses) := by
  have hmark : ";\n".toList.head? ≠ some nameMark := by decide
  have hlast : readWord? ",\n" ";\n".toList = none := by decide
  delta addConstraintsText
  exact readAlteration?_text (fun c rest _ => readClause?_text c rest) hmark hlast h table

theorem readRemoval?_text {names : List String} (h : names ≠ []) (table : String) :
    readRemoval? (dropConstraintsText table names) = some (table, names) := by
  have hmark : ";".toList.head? ≠ some nameMark := by decide
  have hlast : readWord? ",\n" ";".toList = none := by decide
  delta dropConstraintsText
  exact readAlteration?_text (fun name _ hrest => readDropped?_text hrest name) hmark hlast h table

theorem readAddition?_of_dash {line : String} (h : line.toList.head? = some '-') :
    readAddition? line = none := by
  obtain ⟨r, hr⟩ := List.head?_eq_some_iff.1 h
  have hword : readWord? "ALTER TABLE " line.toList = none := by
    rw [hr]
    rfl
  rw [readAddition?, readAlteration?, hword]
  rfl

/-- The lines of a banner are comments and are not read, whatever name they show. -/
theorem readAddition?_banner {title : String} {s : Statement} (h : s ∈ Statement.banner title) :
    readAddition? s.text = none ∧ ∃ line, s = .comment line := by
  simp only [Statement.banner, List.mem_cons, List.not_mem_nil, or_false] at h
  rcases h with rfl | rfl | rfl
  · exact ⟨readAddition?_of_dash (by decide), _, rfl⟩
  · refine ⟨readAddition?_of_dash ?_, _, rfl⟩
    rw [Statement.text, String.toList_append, List.head?_append_of_ne_nil _ (by decide)]
    decide
  · exact ⟨readAddition?_of_dash (by decide), _, rfl⟩

end Sql

/-! ## The two scripts of an index -/

namespace ConstraintIndex

open Sql

variable {i : ConstraintIndex} {on : Bool} {tablePrefix : String}

/-- What the index says, table by table, under the names that tables have in the database. A table
without a constraint says nothing. -/
def clauses (i : ConstraintIndex) (on : Bool) (tablePrefix : String) :
    List (String × List ForeignKeyClause) :=
  if on then
    (i.entries.filter fun e => !e.2.isEmpty).map fun e =>
      (tablePrefix ++ e.1, e.2.values.map fun c =>
        { name := c.name
          column := c.column
          referencedTable := tablePrefix ++ c.referencedTable
          referencedColumn := c.referencedColumn
          onDelete := c.onDelete
          onUpdate := c.onUpdate })
  else []

theorem values_ne_nil {e : String × OrderedMap Constraint} (he : e ∈ i.constrained) :
    e.2.values ≠ [] := by
  have hne := (List.mem_filter.1 he).2
  intro hnil
  rw [OrderedMap.isEmpty, List.map_eq_nil_iff.1 hnil] at hne
  cases hne

theorem readAddition?_constrained {e : String × OrderedMap Constraint} (he : e ∈ i.constrained)
    (table : String) :
    readAddition? (addConstraintsText table (e.2.values.map (clauseOf tablePrefix))) =
      some (table, e.2.values.map (clauseOf tablePrefix)) :=
  readAddition?_text (mt List.map_eq_nil_iff.1 (values_ne_nil he)) table

theorem filterMap_readAddition? (i : ConstraintIndex) (on : Bool) (tablePrefix : String) :
    (i.additions on tablePrefix).filterMap (fun s => readAddition? s.text) =
      i.clauses on tablePrefix := by
  cases on with
  | false => rfl
  | true =>
      rw [additions, clauses, if_pos rfl, if_pos rfl, List.filterMap_flatMap, List.map_eq_flatMap]
      refine List.flatMap_congr fun e he => ?_
      have hbanner : (Statement.constraintBanner (Naming.physical tablePrefix e.1)).filterMap
          (fun s => readAddition? s.text) = [] :=
        List.filterMap_eq_nil_iff.2 fun s hs => (readAddition?_banner hs).1
      simp only [List.filterMap_append, hbanner, List.nil_append]
      exact List.filterMap_cons_some (f := fun s : Statement => readAddition? s.text)
        (readAddition?_constrained he _)

theorem map_readRemoval? (i : ConstraintIndex) (on : Bool) (tablePrefix : String) :
    (i.removals on tablePrefix).map (fun s => readRemoval? s.text) =
      (i.clauses on tablePrefix).map fun a => some (a.1, a.2.map ForeignKeyClause.name) := by
  cases on with
  | false => rfl
  | true =>
      rw [removals, clauses, if_pos rfl, if_pos rfl, List.map_map, List.map_map]
      refine List.map_congr_left fun e he => ?_
      have hnames : e.2.values.map Constraint.name ≠ [] :=
        mt List.map_eq_nil_iff.1 (values_ne_nil he)
      rw [Function.comp_apply, Function.comp_apply, List.map_map]
      exact readRemoval?_text hnames _

theorem eq_comment_of_mem_additions {s : Statement} (hs : s ∈ i.additions on tablePrefix)
    (hread : readAddition? s.text = none) : ∃ line, s = .comment line := by
  cases on with
  | false => cases hs
  | true =>
      obtain ⟨e, he, hs⟩ := List.mem_flatMap.1 hs
      rcases List.mem_append.1 hs with hs | hs
      · exact (readAddition?_banner hs).2
      · obtain rfl := List.mem_singleton.1 hs
        cases hread.symm.trans (readAddition?_constrained he _)

/-- Read as texts, the script that adds the constraints of an index gives back what the index says,
comments apart, and the script that drops them gives back the same tables in the same order with the
same names. -/
theorem read_additions_removals (i : ConstraintIndex) (on : Bool) (tablePrefix : String) :
    (i.additions on tablePrefix).filterMap (fun s => readAddition? s.text) =
        i.clauses on tablePrefix ∧
      (∀ s ∈ i.additions on tablePrefix, readAddition? s.text = none → ∃ line, s = .comment line) ∧
      (i.removals on tablePrefix).map (fun s => readRemoval? s.text) =
        (i.clauses on tablePrefix).map fun a => some (a.1, a.2.map ForeignKeyClause.name) :=
  ⟨i.filterMap_readAddition? on tablePrefix, fun _ => eq_comment_of_mem_additions,
    i.map_readRemoval? on tablePrefix⟩

end ConstraintIndex

end SchemaDdl
