import SchemaDdl.Proofs.DividedTexts
import SchemaDdl.Proofs.KeyColumns
import SchemaDdl.Proofs.StatementTexts

/-!
# The lines of a created table

A table is created from lines: one for each column, one for each index and one
for the key. A column has an index for one of three reasons, that its table is a
join table, that a relation of the table has its name, or that it is unique, and
often for two of them at once; a column may also have every reason and no line,
because its type is not supported. `Schema.Writes` lists what the lines come to:
the columns are the supported fields in their order, and the indexes are those
of the columns that have a reason, each once and unique as the field is.

That the table counts up is written twice, behind the columns that do and at the
end of the whole. The two places are fixed, behind everything that a column says
and behind the collation of the table, and either both are filled or none is,
whatever the collation. That a text ends with the word says the same, as long as
the collation, which may stand last as well, does not itself say that something
counts up.
-/

namespace SchemaDdl

open Sql

/-! ## Columns -/

theorem Field.isSupported_eq_false_of_error {f : Field} {error : SchemaError}
    (h : TypedField.ofField f = .error error) : f.isSupported = false := by
  refine Bool.eq_false_iff.2 fun hsupported => ?_
  obtain ⟨typed, hok⟩ := Field.exists_ofField_iff.2 hsupported
  cases h.symm.trans hok

namespace Table

/-- The fields whose type is supported. -/
def supported (t : Table) : List (String × Field) :=
  t.fields.entries.filter fun e => e.2.isSupported

/-- Each supported field has its column, in the order of the fields. -/
theorem forall₂_columns (t : Table) :
    List.Forall₂ (fun e c => e.1 = c.name ∧ TypedField.ofField e.2 = .ok c.typed) t.supported
      t.columns := by
  rw [supported, columns]
  induction t.fields.entries with
  | nil => exact .nil
  | cons e r ih =>
      cases htyped : TypedField.ofField e.2 with
      | error error =>
          rw [List.filter_cons_of_neg (by simp [Field.isSupported_eq_false_of_error htyped]),
            List.filterMap_cons_none (by simp only [htyped])]
          exact ih
      | ok typed =>
          have hsupported := Field.exists_ofField_iff.1 ⟨typed, htyped⟩
          rw [List.filter_cons_of_pos (by simpa using hsupported),
            List.filterMap_cons_some (b := ⟨e.1, typed⟩) (by simp only [htyped])]
          exact .cons ⟨rfl, htyped⟩ ih

/-- What is read off the columns can be read off the fields. -/
theorem map_columns {β : Type} {f : Column → β} {g : String × Field → β}
    (h : ∀ e typed, TypedField.ofField e.2 = .ok typed → g e = f ⟨e.1, typed⟩) (t : Table) :
    t.columns.map f = t.supported.map g := by
  have hmap : List.Forall₂ Eq (t.supported.map g) (t.columns.map f) := by
    rw [List.forall₂_map_left_iff, List.forall₂_map_right_iff]
    refine t.forall₂_columns.imp fun e c hc => ?_
    rw [h e c.typed hc.2, hc.1]
  rw [List.forall₂_eq_eq_eq] at hmap
  exact hmap.symm

theorem nodup_names_columns (t : Table) : (t.columns.map Column.name).Nodup := by
  rw [map_columns (g := Prod.fst) fun _ _ _ => rfl]
  exact t.fields.nodup.sublist (List.filter_sublist.map Prod.fst)

theorem any_isAutoIncrement_columns (t : Table) :
    (t.columns.any fun c => c.typed.field.isAutoIncrement) =
      t.supported.any fun e => e.2.isAutoIncrement := by
  have hmap : t.columns.map (fun c => c.typed.field.isAutoIncrement) =
      t.supported.map fun e => e.2.isAutoIncrement := by
    refine map_columns (fun e typed htyped => ?_) t
    obtain ⟨type, -, rfl⟩ := Field.ofField_ok_iff.1 htyped
    exact (Field.isAutoIncrement_coerced e.2).symm
  have hany := congrArg (List.any · id) hmap
  simpa only [List.any_map, Function.id_comp] using hany

end Table

/-! ## Indexes -/

/-- No column has two indexes. -/
theorem nodup_column_indexesOf (ts : Tables) (table : String) (t : Table) :
    ((indexesOf ts table t).map Index.column).Nodup := by
  have hnames : ∀ p : Column → Bool, ((t.columns.filter p).map Column.name).Nodup := fun p =>
    t.nodup_names_columns.sublist (List.filter_sublist.map Column.name)
  have hcolumn : Index.column ∘ indexOf = Column.name := rfl
  rw [indexesOf, List.map_map, hcolumn, List.map_append]
  refine List.nodup_append.2 ⟨hnames _, hnames _, fun a ha b hb hab => ?_⟩
  obtain ⟨c, hc, rfl⟩ := List.mem_map.1 ha
  obtain ⟨c', hc', rfl⟩ := List.mem_map.1 hb
  -- A column of the first group is related, one of the second is not.
  have hrelated := (List.mem_filter.1 hc).2
  have hunrelated := (Bool.and_eq_true_iff.1 (List.mem_filter.1 hc').2).2
  rw [← hab, hrelated] at hunrelated
  cases hunrelated

/-! ## Texts that end with a word -/

namespace Sql

/-- The text ends with the word, which a blank divides from the rest. -/
def EndsWithWord (text word : String) : Prop := ∃ before, text = before ++ " " ++ word

namespace EndsWithWord

variable {text part word word' : String}

theorem append (h : EndsWithWord part word) (text : String) : EndsWithWord (text ++ part) word := by
  obtain ⟨before, rfl⟩ := h
  exact ⟨text ++ before, by simp only [String.append_assoc]⟩

theorem eq (h : EndsWithWord text word) (h' : EndsWithWord text word') (hword : ' ' ∉ word.toList)
    (hword' : ' ' ∉ word'.toList) : word = word' := by
  obtain ⟨before, rfl⟩ := h
  obtain ⟨before', heq⟩ := h'
  have hchars := congrArg String.toList heq
  simp only [String.toList_append, List.append_assoc] at hchars
  exact String.toList_inj.1 (Text.divided_unique (.inr hword') (.inr hword) hchars).2

theorem getLast?_eq (h : EndsWithWord text word) (hword : word.toList ≠ []) :
    text.toList.getLast? = word.toList.getLast? := by
  obtain ⟨before, rfl⟩ := h
  rw [String.toList_append, List.getLast?_append_of_ne_nil _ hword]

end EndsWithWord

/-! ## Counting up -/

/-- The word by which a column counts up. -/
def countingWord : String := "AUTO_INCREMENT"

/-- The word by which a table counts up, at the end of its statement. -/
def countingEnd : String := "AUTO_INCREMENT=1;\n"

/-- The collation is one word, and not the one by which a column counts up. -/
def PlainCollation (collate : String) : Prop := ' ' ∉ collate.toList ∧ collate ≠ countingWord

instance (collate : String) : Decidable (PlainCollation collate) :=
  inferInstanceAs (Decidable (_ ∧ _))

/-- A text that ends with the part does not count up, unless it does without the part. -/
def Silent (part : String) : Prop :=
  ∀ text, EndsWithWord (text ++ part) countingWord → EndsWithWord text countingWord

theorem silent_empty : Silent "" := fun text h => by rwa [String.append_empty] at h

theorem silent_of_word {part word : String} (h : EndsWithWord part word)
    (hword : ' ' ∉ word.toList) (hne : word ≠ countingWord) : Silent part := fun text hcounts =>
  absurd ((h.append text).eq hcounts hword (by decide)) hne

/-- The word ends with a letter that the part does not end with. -/
theorem not_endsWithWord_append {part : String} {c : Char} (h : part.toList.getLast? = some c)
    (hne : c ≠ 'T') (text : String) : ¬ EndsWithWord (text ++ part) countingWord := by
  intro hcounts
  have hpart : part.toList ≠ [] := by
    intro hnil
    rw [hnil] at h
    cases h
  have hlast := hcounts.getLast?_eq (by decide)
  rw [String.toList_append, List.getLast?_append_of_ne_nil _ hpart, h] at hlast
  exact hne (Option.some.inj hlast)

theorem silent_of_getLast? {part : String} {c : Char} (h : part.toList.getLast? = some c)
    (hne : c ≠ 'T') : Silent part := fun text hcounts =>
  absurd hcounts (not_endsWithWord_append h hne text)

theorem silent_collatePart {collate : String} (h : PlainCollation collate) (t : AbstractType) :
    Silent (if t.isCollatable then " COLLATE " ++ collate else "") := by
  split
  · exact silent_of_word ⟨" COLLATE", rfl⟩ h.1 h.2
  · exact silent_empty

theorem silent_unsignedPart (f : Field) :
    Silent (if f.unsigned = some true then " unsigned" else "") := by
  split
  · exact silent_of_getLast? (c := 'd') (by decide) (by decide)
  · exact silent_empty

theorem silent_nullPart : ∀ nullable : Option Bool, Silent (nullPart nullable)
  | some true => silent_of_getLast? (c := 'L') (by decide) (by decide)
  | some false => silent_of_getLast? (c := 'L') (by decide) (by decide)
  | none => silent_empty

theorem silent_defaultPart : ∀ value : Option DefaultValue, Silent (defaultPart value)
  | some v => by
      have hliteral : (literal v).toList =
          (textMark :: Text.Quoted.encode textMark (literalText v).toList) ++ [textMark] :=
        String.toList_ofList
      refine silent_of_getLast? (c := textMark) ?_ (by decide)
      rw [defaultPart, String.toList_append, hliteral, ← List.append_assoc, List.getLast?_concat]
  | none => silent_empty

/-! ### Types -/

theorem sizeWord_mem (length : Option Length) :
    AbstractType.sizeWord length ∈ ["", "TINY", "MEDIUM", "LONG"] := by
  unfold AbstractType.sizeWord
  split
  · decide
  · decide
  · decide
  · decide

/-- The name of a type is one word, and not the one by which a column counts up. -/
theorem sqlName_plain (t : AbstractType) (length : Option Length) :
    ' ' ∉ (t.sqlName length).toList ∧ t.sqlName length ≠ countingWord := by
  have hall : ∀ size ∈ ["", "TINY", "MEDIUM", "LONG"],
      ' ' ∉ (if t.isTextFamily then size ++ t.baseName else t.baseName).toList ∧
        (if t.isTextFamily then size ++ t.baseName else t.baseName) ≠ countingWord := by
    cases t <;> decide
  exact hall _ (sizeWord_mem length)

/-- A column that ends after its type does not count up. -/
theorem not_endsWithWord_typeText {f : Field} {typed : TypedField}
    (h : TypedField.ofField f = .ok typed) (text : String) :
    ¬ EndsWithWord (text ++ " " ++ typed.typeText) countingWord := by
  obtain ⟨type, -, rfl⟩ := Field.ofField_ok_iff.1 h
  rw [TypedField.typeText]
  split
  · refine not_endsWithWord_append (c := ')') ?_ (by decide) _
    rw [String.toList_append]
    exact List.getLast?_concat
  · intro hcounts
    have hname := sqlName_plain type f.length
    exact hname.2 (EndsWithWord.eq ⟨text, rfl⟩ hcounts hname.1 (by decide))

/-- Under a plain collation the line of a column says that it counts up exactly if it does. -/
theorem endsWithWord_columnLine_iff {f : Field} {typed : TypedField} {collate : String}
    (h : TypedField.ofField f = .ok typed) (hcollate : PlainCollation collate) (name : String) :
    EndsWithWord (columnLine name typed collate) countingWord ↔
      typed.field.isAutoIncrement = true := by
  rw [columnLine]
  constructor
  · intro hcounts
    by_contra hauto
    rw [if_neg hauto] at hcounts
    -- The line ends with its type, or with a part behind it.
    refine not_endsWithWord_typeText h (quoteName name) ?_
    refine silent_collatePart hcollate typed.type _ ?_
    refine silent_unsignedPart typed.field _ ?_
    refine silent_nullPart typed.field.nullable _ ?_
    exact silent_defaultPart typed.field.defaultValue _ (silent_empty _ hcounts)
  · intro hauto
    rw [if_pos hauto]
    exact EndsWithWord.append ⟨"", by decide⟩ _

/-- Under a plain collation a table says that it counts up exactly if it is to. -/
theorem endsWithWord_createTableText_iff {s : Settings} (hcollate : PlainCollation s.collate)
    (table : String) (body : List String) (autoIncrement : Bool) :
    EndsWithWord (createTableText table body s autoIncrement) countingEnd ↔
      autoIncrement = true := by
  unfold createTableText
  cases autoIncrement with
  | true =>
      have hend : EndsWithWord (" AUTO_INCREMENT=1" ++ ";\n") countingEnd := ⟨"", by decide⟩
      rw [if_pos rfl, String.append_assoc]
      exact iff_of_true (hend.append _) rfl
  | false =>
      -- The last word is the collation, behind its name.
      have hend : EndsWithWord (" COLLATE=" ++ (s.collate ++ ";\n"))
          ("COLLATE=" ++ (s.collate ++ ";\n")) := ⟨"", rfl⟩
      have hblank : ' ' ∉ ("COLLATE=" ++ (s.collate ++ ";\n")).toList := by
        simp only [String.toList_append, List.mem_append, not_or]
        exact ⟨by decide, hcollate.1, by decide⟩
      rw [if_neg Bool.false_ne_true, String.append_empty, String.append_assoc, String.append_assoc]
      refine iff_of_false (fun hcounts => ?_) Bool.false_ne_true
      have hword := (hend.append _).eq hcounts hblank (by decide)
      have hhead := congrArg (fun text => text.toList.head?) hword
      rw [String.toList_append, List.head?_append_of_ne_nil _ (by decide)] at hhead
      exact absurd hhead (by decide)

end Sql

/-! ## The whole table -/

/-- What a table is created from: a line for each supported field, lines for the columns that have
a reason to be indexed, the line of the key, and a mark at the end if any of the fields counts up. A
column that counts up has its mark at the end of its line. `counts` reads both marks off the texts
alone, where a collation must not pass for one. -/
structure Schema.Writes (s : Schema) (table : String) (t : Table) (layout : TableLayout)
    (columnLines indexLines : List String) : Prop where
  columns : List.Forall₂
    (fun e line => ∃ typed, TypedField.ofField e.2 = .ok typed ∧
      line = quoteName e.1 ++ " " ++ typed.typeText ++ attributes typed layout.settings.collate ++
        if e.2.isAutoIncrement then " AUTO_INCREMENT" else "") t.supported columnLines
  indexed : ∀ i, i ∈ layout.indexes ↔
    ∃ f, t.fields.get? i.column = some f ∧ f.isSupported = true ∧ i.unique = f.isUnique ∧
      (t.isJoinTable = true ∨ (∃ r ∈ s.tables.foreignKeys table, r.2.column = i.column) ∨
        f.isUnique = true)
  once : (layout.indexes.map Index.column).Nodup
  /-- An index line is read as `UNIQUE KEY` or `KEY`, with the name and the column of its index. -/
  lines : indexLines.map readIndexLine? = layout.indexes.map some
  text : layout.text =
    "CREATE TABLE IF NOT EXISTS " ++ quoteName layout.name ++ " (\n" ++
      String.intercalate ",\n" ((columnLines ++ indexLines ++
        if (s.keyColumns table).isEmpty then []
        else ["PRIMARY KEY (" ++ quoteNames (s.keyColumns table) ++ ")"]).map ("  " ++ ·)) ++
      "\n) ENGINE=" ++ layout.settings.engine ++ " DEFAULT CHARSET=" ++ layout.settings.charset ++
      " COLLATE=" ++ layout.settings.collate ++
      (if ∃ e ∈ t.supported, e.2.isAutoIncrement = true then " AUTO_INCREMENT=1" else "") ++ ";\n"
  counts : PlainCollation layout.settings.collate →
    (EndsWithWord layout.text countingEnd ↔ ∃ line ∈ columnLines, EndsWithWord line countingWord)

theorem isRelationColumn_iff {ts : Tables} {table : String} {t : Table} {column : String} :
    isRelationColumn ts table t column = true ↔
      t.isJoinTable = true ∨ ∃ r ∈ ts.foreignKeys table, r.2.column = column := by
  simp only [isRelationColumn, Bool.or_eq_true, List.any_eq_true, decide_eq_true_iff]

/-- The columns as they are written, one after another. -/
theorem Table.forall₂_columnLines (t : Table) (collate : String) :
    List.Forall₂
      (fun e line => ∃ typed, TypedField.ofField e.2 = .ok typed ∧
        line = quoteName e.1 ++ " " ++ typed.typeText ++ attributes typed collate ++
          if e.2.isAutoIncrement then " AUTO_INCREMENT" else "")
      t.supported (t.columns.map fun c => columnLine c.name c.typed collate) := by
  rw [List.forall₂_map_right_iff]
  refine t.forall₂_columns.imp fun e c hc => ⟨c.typed, hc.2, ?_⟩
  obtain ⟨hname, htyped⟩ := hc
  have hauto : c.typed.field.isAutoIncrement = e.2.isAutoIncrement := by
    obtain ⟨type, -, heq⟩ := Field.ofField_ok_iff.1 htyped
    rw [heq]
    exact Field.isAutoIncrement_coerced e.2
  rw [columnLine_eq, hauto, hname]

/-- Every table of a schema, compiled or not, is created from these lines. -/
theorem Schema.writes_tableLayout {s : Schema} {table : String} {t : Table}
    (ht : s.tables.get? table = some t) (globals : Settings) (physicalName : String) :
    ∃ layout columnLines indexLines,
      s.tableLayout? table globals physicalName = some layout ∧
      layout.name = physicalName ∧ layout.settings = t.options.onto globals ∧
      s.Writes table t layout columnLines indexLines := by
  refine ⟨_, t.columns.map fun c => columnLine c.name c.typed (t.options.onto globals).collate,
    (indexesOf s.tables table t).map fun i => indexLine i.column i.unique,
    by rw [tableLayout?, ht, Option.map_some], rfl, rfl, ?_⟩
  refine ⟨t.forall₂_columnLines _, fun i => ?_, nodup_column_indexesOf s.tables table t, ?_, ?_,
    fun hcollate => ?_⟩
  · show i ∈ indexesOf s.tables table t ↔ _
    rw [mem_indexesOf_iff]
    refine exists_congr fun f => and_congr_right fun _ => and_congr_right fun _ => ?_
    rw [isRelationColumn_iff, or_assoc, eq_comm]
    exact and_congr_right fun hunique => by rw [hunique]
  · rw [List.map_map]
    exact List.map_congr_left fun i _ => readIndexLine?_text i
  · have hmark : (if ∃ e ∈ t.supported, e.2.isAutoIncrement = true then " AUTO_INCREMENT=1"
        else "") = if t.columns.any fun c => c.typed.field.isAutoIncrement then " AUTO_INCREMENT=1"
        else "" := by
      rw [t.any_isAutoIncrement_columns]
      simp only [List.any_eq_true]
    rw [hmark]
    rfl
  · refine (endsWithWord_createTableText_iff hcollate _ _ _).trans ?_
    simp only [TableLayout.hasAutoIncrement, List.any_eq_true, List.mem_map,
      exists_exists_and_eq_and]
    refine exists_congr fun c => and_congr_right fun hc => ?_
    obtain ⟨f, -, htyped⟩ := Table.mem_columns.1 hc
    exact (endsWithWord_columnLine_iff htyped hcollate c.name).symm

/-- Two tables of a schema that is not compiled: one with a column that a relation names and that is
unique besides, a unique one, one that is neither, and a unique one of a type that there is not. -/
def fencing : Schema :=
  ({} : Schema)
    |>.addTable "club" (({} : Table).hasMany "member" {})
    |>.addTable "member" ((((((({} : Table).withField "id" .standardKey).withField "email"
      { typeName := "string", unique := some true }).withField "home"
        { typeName := "point", unique := some true }).withField "note"
          { typeName := "text" }).withField "club_id"
            { typeName := "int", unique := some true }).belongsTo "club")

theorem writes_fencing_member :
    ∃ t, fencing.tables.get? "member" = some t ∧
      ∃ layout columnLines indexLines,
        fencing.tableLayout? "member" {} "member" = some layout ∧
        fencing.Writes "member" t layout columnLines indexLines ∧ columnLines.length = 4 ∧
        indexLines.map readIndexLine? = [some ⟨"club_id", true⟩, some ⟨"email", true⟩] ∧
        PlainCollation layout.settings.collate ∧ EndsWithWord layout.text countingEnd := by
  have hmember : fencing.tables.get? "member" = some _ := rfl
  obtain ⟨layout, columnLines, indexLines, hlayout, -, hsettings, h⟩ :=
    Schema.writes_tableLayout hmember {} "member"
  have hplain : PlainCollation layout.settings.collate := by
    rw [hsettings]
    decide
  refine ⟨_, hmember, layout, columnLines, indexLines, hlayout, h, ?_, ?_, hplain, ?_⟩
  · rw [← h.columns.length_eq]
    decide
  · rw [h.lines]
    obtain rfl := Option.some.inj hlayout
    decide
  · have htext : layout.text = createTableText layout.name layout.body layout.settings
        layout.hasAutoIncrement := rfl
    rw [htext, endsWithWord_createTableText_iff hplain]
    obtain rfl := Option.some.inj hlayout
    decide

end SchemaDdl
