import SchemaDdl.Proofs.DerivedColumns

/-!
# The columns of a primary key

The key of a table is a list of names, and a name says nothing about null or
counting up. A name without any other definition is a standard key column,
which is never null and counts up. A name with another definition has the one
that the merge ends with, and there the list is forgotten: a timestamp in the
key is as null as any timestamp, and a foreign key column in the key is null
unless its relation gives a default. Only in a join table are foreign key
columns known to be key columns when they are made.

Counting up runs the other way. Copies of key columns never count up, nor do
timestamps, so the columns that do are the bare names in the list, all of them.
-/

namespace SchemaDdl

open Sql

/-! ## Definitions by their source -/

theorem Field.nullable_coerced (f : Field) :
    f.coerced.nullable = if f.typeName = "boolean" then some false else f.nullable := by
  rw [coerced]
  split
  · rfl
  · rfl

theorem Field.isAutoIncrement_coerced (f : Field) :
    f.coerced.isAutoIncrement = f.isAutoIncrement := by
  rw [coerced]
  split
  · rfl
  · rfl

theorem Table.keyNames_settled (globals : Settings) (t : Table) :
    (t.settled globals).keyNames = t.keyNames := by
  rw [keyNames, settled_primaryKey, keyNames]

/-- A key column that the table does not have otherwise is standard. -/
theorem Table.get?_keyFields_of_none {t : Table} {column : String}
    (h : t.fields.get? column = none) :
    t.keyFields.get? column = if column ∈ t.keyNames then some .standardKey else none := by
  have hmem : column ∈ t.keyFields.keys ↔ column ∈ t.keyNames := mem_keys_keyFields
  split
  · next hlisted =>
      obtain ⟨key, hkey⟩ := OrderedMap.mem_keys_iff.1 (hmem.2 hlisted)
      have hdefinition := eq_of_get?_keyFields hkey
      rw [h, Option.getD_none] at hdefinition
      rw [hkey, hdefinition]
      split
      · rfl
      · rfl
  · next hlisted => exact OrderedMap.get?_eq_none_iff.2 fun hkey => hlisted (hmem.1 hkey)

namespace Schema

variable {s : Schema} {defaults : Settings} {names : NameSource} {name column : String} {t : Table}

theorem keyColumns_of_declared (ht : s.tables.get? name = some t) (defaults : Settings)
    (names : NameSource) :
    (s.resolve defaults names).schema.keyColumns name = t.keyNames.eraseDups := by
  obtain ⟨key, _, hkey, -, hkept⟩ := kept_resolve ht defaults names
  rw [keyColumns, hkey]
  exact hkept.keyed

/-- A column that the table neither declares nor stamps is made for a relation or a standard key
column. -/
theorem field?_of_bare (ht : s.tables.get? name = some t)
    (hstamp : column ∉ t.stamps (s.globals defaults)) (hundeclared : t.fields.get? column = none) :
    (s.resolve defaults names).schema.field? name column =
      (((s.resolve defaults names).schema.options.primaryKeys.source?
        (s.tables.foreignKeys name) column).map fun m => m.1.columnField m.2).or
          (if column ∈ t.keyNames then some .standardKey else none) := by
  have hsettled : (t.settled (s.globals defaults)).fields.get? column = none := by
    rw [Table.get?_fields_settled, if_neg fun h => hstamp (Table.stampedAt_iff.1 h), hundeclared]
  rw [field?_of_declared ht, if_neg hstamp, hundeclared, Option.none_or,
    Table.get?_keyFields_of_none hsettled, Table.keyNames_settled]

/-- A compiled table that is not declared is a join table that was made. -/
theorem exists_made_of_undeclared (hname : s.tables.get? name = none) {t' : Table}
    (ht' : (s.resolve defaults names).schema.tables.get? name = some t') :
    ∃ made, (s.joined defaults names).MadeOf (s.globals defaults) (s.keyed defaults) made ∧
      ∃ m ∈ made, t' = m.columns.table (s.globals defaults) := by
  obtain ⟨made, hmade⟩ := s.madeOf_joined defaults names
  rcases (mem_keys_tables_resolve_iff hmade).1 (OrderedMap.mem_keys_of_get? ht') with
    hdeclared | ⟨m, hmem, rfl⟩
  · exact absurd hdeclared (OrderedMap.get?_eq_none_iff.1 hname)
  · exact ⟨made, hmade, m, hmem,
      Option.some.inj (ht'.symm.trans (get?_tables_of_made hmade hmem))⟩

/-- The columns of a join table are copies that are never null. -/
theorem eq_joinField_of_undeclared (hname : s.tables.get? name = none) {f : Field}
    (hf : (s.resolve defaults names).schema.field? name column = some f) :
    ∃ fk key, f = ForeignKey.joinField fk key := by
  obtain ⟨t', ht', hget⟩ := Option.bind_eq_some_iff.1 hf
  obtain ⟨made, hmade, m, hmem, rfl⟩ := exists_made_of_undeclared hname ht'
  obtain ⟨names', hcolumns⟩ := ofSides_of_made hmade hmem
  have hfields := (JoinColumns.get?_fields_ofSides hcolumns column).symm.trans hget
  obtain ⟨source, -, rfl⟩ := Option.map_eq_some_iff.1 hfields
  exact ⟨source.1, source.2, rfl⟩

end Schema

/-! ## Null -/

/-- The script creates the table with the column in its key and null by default. -/
def Sql.NullKey (script : List Statement) (table column : String) : Prop :=
  CreatesWith script table fun layout => column ∈ layout.primaryKey ∧
    ∃ c ∈ layout.columns, c.name = column ∧ c.typed.field.nullable = some true

namespace Schema

variable {s : Schema} {defaults : Settings} {names : NameSource} {name column tablePrefix : String}

/-- The column is declared in the table, and as null. -/
def DeclaresNull (s : Schema) (name column : String) : Prop :=
  ∃ f, s.field? name column = some f ∧ f.nullable = some true

theorem nullKey_script_iff :
    NullKey (s.script defaults tablePrefix) (Naming.physical tablePrefix name) column ↔
      column ∈ s.keyColumns name ∧ ∃ f, s.field? name column = some f ∧ f.isSupported = true ∧
        f.coerced.nullable = some true := by
  rw [NullKey, createsWith_script_iff]
  constructor
  · rintro ⟨t, ht, hkey, hcolumn⟩
    rw [field?_of_table ht]
    exact ⟨hkey, (Table.exists_column_iff fun f => f.nullable = some true).1 hcolumn⟩
  · rintro ⟨hkey, f, hf, hnull⟩
    obtain ⟨t, ht, hget⟩ := Option.bind_eq_some_iff.1 hf
    exact ⟨t, ht, hkey,
      (Table.exists_column_iff fun f => f.nullable = some true).2 ⟨f, hget, hnull⟩⟩

/-- What makes a key column null that is not declared so. -/
def NullsKey (s : Schema) (defaults : Settings) (keys : KeyIndex) (name column : String) : Prop :=
  ∃ t, s.tables.get? name = some t ∧ column ∈ t.keyNames ∧
    (column ∈ t.stamps (s.globals defaults) ∨
      t.fields.get? column = none ∧ ∃ fk key,
        keys.source? (s.tables.foreignKeys name) column = some (fk, key) ∧
          fk.defaultValue = none ∧ key.isSupported = true ∧ key.typeName ≠ "boolean")

instance (s : Schema) (defaults : Settings) (keys : KeyIndex) (name column : String) :
    Decidable (s.NullsKey defaults keys name column) :=
  decidable_of_iff ((s.tables.get? name).any fun t =>
    column ∈ t.keyNames ∧ (column ∈ t.stamps (s.globals defaults) ∨
      t.fields.get? column = none ∧
        (keys.source? (s.tables.foreignKeys name) column).any fun m =>
          m.1.defaultValue = none ∧ m.2.isSupported = true ∧ m.2.typeName ≠ "boolean")) (by
    simp only [NullsKey, Option.any_eq_true, decide_eq_true_eq, Prod.exists])

theorem isNull_columnField_iff {fk : ForeignKey} {key : Field} :
    (fk.columnField key).coerced.nullable = some true ↔
      fk.defaultValue = none ∧ key.typeName ≠ "boolean" := by
  rw [Field.nullable_coerced]
  show (if key.typeName = "boolean" then some false else some fk.defaultValue.isNone) = _ ↔ _
  by_cases hboolean : key.typeName = "boolean"
  · simp [hboolean]
  · simp [hboolean]

theorem null_of_bare_iff {t : Table} (ht : s.tables.get? name = some t)
    (hlisted : column ∈ t.keyNames) (hstamp : column ∉ t.stamps (s.globals defaults))
    (hundeclared : t.fields.get? column = none) :
    (∃ f, (s.resolve defaults names).schema.field? name column = some f ∧ f.isSupported = true ∧
      f.coerced.nullable = some true) ↔
      ∃ fk key, (s.resolve defaults names).schema.options.primaryKeys.source?
          (s.tables.foreignKeys name) column = some (fk, key) ∧
        fk.defaultValue = none ∧ key.isSupported = true ∧ key.typeName ≠ "boolean" := by
  rw [field?_of_bare ht hstamp hundeclared, if_pos hlisted]
  cases hsource : (s.resolve defaults names).schema.options.primaryKeys.source?
      (s.tables.foreignKeys name) column with
  | none =>
      refine iff_of_false ?_ (by simp)
      rintro ⟨f, hf, -, hnull⟩
      obtain rfl := Option.some.inj hf
      cases hnull
  | some m =>
      obtain ⟨fk, key⟩ := m
      rw [Option.map_some, Option.some_or]
      constructor
      · rintro ⟨f, hf, hsupported, hnull⟩
        obtain rfl := Option.some.inj hf
        rw [(fk.columnField_alike key).isSupported_eq] at hsupported
        obtain ⟨hdefault, htype⟩ := isNull_columnField_iff.1 hnull
        exact ⟨fk, key, rfl, hdefault, hsupported, htype⟩
      · rintro ⟨fk', key', hm, hdefault, hsupported, htype⟩
        obtain ⟨rfl, rfl⟩ := Prod.mk.inj (Option.some.inj hm)
        refine ⟨_, rfl, ?_, isNull_columnField_iff.2 ⟨hdefault, htype⟩⟩
        rw [(fk.columnField_alike key).isSupported_eq]
        exact hsupported

/-- A declared column is null only if it is declared so. -/
theorem declaresNull_of_null {t : Table} {f : Field} (ht : s.tables.get? name = some t)
    (hdeclared : t.fields.get? column = some f) (hnull : f.coerced.nullable = some true) :
    s.DeclaresNull name column := by
  refine ⟨f, (field?_of_table ht column).trans hdeclared, ?_⟩
  rw [Field.nullable_coerced] at hnull
  split at hnull
  · cases hnull
  · exact hnull

theorem nullKey_resolve_iff (hnot : ¬ s.DeclaresNull name column) :
    NullKey ((s.resolve defaults names).schema.script defaults tablePrefix)
        (Naming.physical tablePrefix name) column ↔
      s.NullsKey defaults (s.resolve defaults names).schema.options.primaryKeys name column := by
  rw [nullKey_script_iff, NullsKey]
  cases ht : s.tables.get? name with
  | none =>
      refine iff_of_false ?_ (by simp)
      rintro ⟨-, f, hf, -, hnull⟩
      obtain ⟨fk, key, rfl⟩ := eq_joinField_of_undeclared ht hf
      rw [Field.nullable_coerced, ForeignKey.joinField, ite_self] at hnull
      cases hnull
  | some t =>
      simp only [Option.some.injEq, exists_eq_left', keyColumns_of_declared ht, List.mem_eraseDups]
      refine and_congr_right fun hlisted => ?_
      -- The sources in the order in which they win: timestamp, declaration, relation, key.
      by_cases hstamp : column ∈ t.stamps (s.globals defaults)
      · rw [field?_of_declared ht, if_pos hstamp]
        exact iff_of_true ⟨_, rfl, rfl, rfl⟩ (.inl hstamp)
      · cases hdeclared : t.fields.get? column with
        | some f =>
            refine iff_of_false ?_ (by simp [hstamp])
            rw [field?_of_declared ht, if_neg hstamp, hdeclared, Option.some_or]
            rintro ⟨f', hf', -, hnull⟩
            obtain rfl := Option.some.inj hf'
            exact hnot (declaresNull_of_null ht hdeclared hnull)
        | none =>
            rw [null_of_bare_iff ht hlisted hstamp hdeclared]
            simp only [hstamp, false_or, true_and]

end Schema

/-- A key column that is not declared null is null exactly if it is a timestamp, or if it is not
declared and made for a relation without a default. -/
theorem compile_nullKey_iff (c : Compiler) (s : Schema) (htables : s.tables.isEmpty = false)
    (hraw : s.isCompiled = false) :
    ∃ r, c.compile s = .ok r ∧ ∀ name column, ¬ s.DeclaresNull name column →
      (NullKey r.script (Naming.physical c.tablePrefix name) column ↔
        s.NullsKey c.defaults r.schema.options.primaryKeys name column) := by
  obtain ⟨r, hr, hschema, -⟩ := c.compile_of_uncompiled htables hraw
  refine ⟨r, hr, fun name column hnot => ?_⟩
  rw [Compiler.script_of_compile hr, hschema]
  exact Schema.nullKey_resolve_iff hnot

/-- Key columns that another source defines, and none of them as null: a foreign key with a default,
a copy of a boolean key, and columns that are declared. -/
def seating : Schema :=
  ({} : Schema)
    |>.addTable "hall" (({} : Table).hasMany "seat" { defaultValue := some (.integer 1) })
    |>.addTable "side" ((({ options := { primaryKey := some ["left"] } } : Table).withField "left"
      { typeName := "boolean" }).hasMany "seat" {})
    |>.addTable "seat" ((({ options := { primaryKey := some ["hall_id", "side_id", "row", "no"] } }
      : Table).withField "row" { typeName := "char", nullable := some true }).belongsTo "hall"
        |>.belongsTo "side")

theorem compile_seating_nullKey :
    seating.tables.isEmpty = false ∧ seating.isCompiled = false ∧
      ∃ r, ({ names := .counting } : Compiler).compile seating = .ok r ∧
        ¬ seating.DeclaresNull "seat" "hall_id" ∧ ¬ NullKey r.script "seat" "hall_id" ∧
        ¬ seating.DeclaresNull "seat" "side_id" ∧ ¬ NullKey r.script "seat" "side_id" ∧
        ¬ seating.DeclaresNull "seat" "no" ∧ ¬ NullKey r.script "seat" "no" := by
  refine ⟨by decide, by decide, ?_⟩
  obtain ⟨r, hr, hall⟩ :=
    compile_nullKey_iff { names := .counting } seating (by decide) (by decide)
  refine ⟨r, hr, ?_⟩
  obtain rfl := Except.ok.inj hr
  have hundeclared (column : String) (h : seating.field? "seat" column = none) :
      ¬ seating.DeclaresNull "seat" column := by
    rintro ⟨f, hf, -⟩
    rw [h] at hf
    cases hf
  have hhall := hundeclared "hall_id" (by decide)
  have hside := hundeclared "side_id" (by decide)
  have hno := hundeclared "no" (by decide)
  refine ⟨hhall, fun h => ?_, hside, fun h => ?_, hno, fun h => ?_⟩
  · exact absurd ((hall "seat" "hall_id" hhall).1 h) (by decide)
  · exact absurd ((hall "seat" "side_id" hside).1 h) (by decide)
  · exact absurd ((hall "seat" "no" hno).1 h) (by decide)

/-- A key column that is a foreign key, and one that is a timestamp. -/
def ticketing : Schema :=
  ({} : Schema)
    |>.addTable "hall" (({} : Table).hasMany "ticket" {})
    |>.addTable "ticket" ((({ options := { primaryKey := some ["hall_id", "no", "created"] } }
      : Table).withField "no" { typeName := "int" }).belongsTo "hall")

theorem compile_ticketing_nullKey :
    ticketing.field? "ticket" "hall_id" = none ∧ ticketing.field? "ticket" "created" = none ∧
      ∃ r, ({ names := .counting } : Compiler).compile ticketing = .ok r ∧
        NullKey r.script "ticket" "hall_id" ∧ NullKey r.script "ticket" "created" := by
  have hnull (column : String) {f : Field}
      (hkey : column ∈ (ticketing.resolve {} .counting).schema.keyColumns "ticket")
      (hf : (ticketing.resolve {} .counting).schema.field? "ticket" column = some f)
      (hsupported : f.isSupported = true) (hcoerced : f.coerced.nullable = some true) :
      NullKey ((ticketing.resolve {} .counting).schema.script {} "") (Naming.physical "" "ticket")
        column :=
    Schema.nullKey_script_iff.2 ⟨hkey, f, hf, hsupported, hcoerced⟩
  refine ⟨by decide, by decide, _, rfl, ?_, ?_⟩
  · exact hnull "hall_id" (by decide) rfl rfl rfl
  · exact hnull "created" (by decide) rfl rfl rfl

/-! ## Counting up -/

/-- The columns whose lines say that they count up. -/
def Sql.TableLayout.autoIncrementColumns (l : TableLayout) : List String :=
  (l.columns.filter fun c => c.typed.field.isAutoIncrement).map Column.name

namespace Table

/-- The names in the key that the table has from no other source. -/
def bareKeys (globals : Settings) (foreign : List (String × Field)) (t : Table) : List String :=
  t.keyNames.eraseDups.filter fun column =>
    column ∉ foreign.map Prod.fst ++ (t.fields.keys ++ t.stamps globals)

theorem map_name_filter_columns (t : Table) :
    (t.columns.filter fun c => c.typed.field.isAutoIncrement).map Column.name =
      t.fields.keys.filter fun column =>
        (t.fields.get? column).any fun f => f.isSupported && f.isAutoIncrement := by
  have hcolumns : (t.columns.filter fun c => c.typed.field.isAutoIncrement).map Column.name =
      (t.fields.entries.filter fun e => e.2.isSupported && e.2.isAutoIncrement).map Prod.fst := by
    rw [columns, List.filter_filterMap, List.map_filterMap, ← List.filterMap_eq_map,
      List.filterMap_filter]
    refine List.filterMap_congr fun e _ => ?_
    cases htyped : TypedField.ofField e.2 with
    | error error =>
        have hsupported : e.2.isSupported = false := by
          refine Bool.eq_false_iff.2 fun h => ?_
          obtain ⟨typed, hok⟩ := Field.exists_ofField_iff.2 h
          cases htyped.symm.trans hok
        simp only [hsupported, Bool.false_and, Bool.false_eq_true, if_false,
          Option.filter_none, Option.map_none]
    | ok typed =>
        obtain ⟨type, -, rfl⟩ := Field.ofField_ok_iff.1 htyped
        simp only [Field.exists_ofField_iff.1 ⟨_, htyped⟩, Field.isAutoIncrement_coerced,
          Bool.true_and, Option.filter_some]
        split
        · rfl
        · rfl
  rw [hcolumns, OrderedMap.keys, List.filter_map]
  refine congrArg _ (List.filter_congr fun e he => ?_)
  rw [Function.comp_apply, OrderedMap.mem_entries_iff.1 he, Option.any_some]

end Table

namespace Schema

variable {s : Schema} {defaults : Settings} {names : NameSource} {name column tablePrefix : String}

/-- Without a declaration that says so only the bare names of the key count up. -/
theorem isAutoIncrement_iff {t t' : Table} (ht : s.tables.get? name = some t)
    (ht' : (s.resolve defaults names).schema.tables.get? name = some t')
    (hdeclared : ∀ column f, t.fields.get? column = some f → f.isAutoIncrement = false) :
    ((t'.fields.get? column).any fun f => f.isSupported && f.isAutoIncrement) = true ↔
      column ∈ t.keyNames ∧ column ∉
        ((s.resolve defaults names).schema.options.primaryKeys.foreignColumns
          (s.tables.foreignKeys name)).map Prod.fst ++
            (t.fields.keys ++ t.stamps (s.globals defaults)) := by
  rw [← field?_of_table ht']
  simp only [List.mem_append, not_or]
  by_cases hstamp : column ∈ t.stamps (s.globals defaults)
  · rw [field?_of_declared ht, if_pos hstamp]
    exact iff_of_false Bool.false_ne_true fun h => h.2.2.2 hstamp
  · cases hfield : t.fields.get? column with
    | some f =>
        rw [field?_of_declared ht, if_neg hstamp, hfield, Option.some_or, Option.any_some,
          hdeclared column f hfield, Bool.and_false]
        exact iff_of_false Bool.false_ne_true fun h => h.2.2.1 (OrderedMap.mem_keys_of_get? hfield)
    | none =>
        rw [field?_of_bare ht hstamp hfield, ← KeyIndex.source?_eq_none_iff,
          ← OrderedMap.get?_eq_none_iff]
        cases (s.resolve defaults names).schema.options.primaryKeys.source?
            (s.tables.foreignKeys name) column with
        | some m =>
            rw [Option.map_some, Option.some_or, Option.any_some]
            exact iff_of_false (by simp [Field.isAutoIncrement, ForeignKey.columnField]) (by simp)
        | none =>
            rw [Option.map_none, Option.none_or]
            by_cases hlisted : column ∈ t.keyNames
            · rw [if_pos hlisted]
              exact iff_of_true rfl ⟨hlisted, rfl, hfield, hstamp⟩
            · rw [if_neg hlisted]
              exact iff_of_false Bool.false_ne_true fun h => hlisted h.1

theorem autoIncrementColumns_of_declared {t t' : Table} (ht : s.tables.get? name = some t)
    (ht' : (s.resolve defaults names).schema.tables.get? name = some t')
    (hdeclared : ∀ column f, t.fields.get? column = some f → f.isAutoIncrement = false) :
    (t'.columns.filter fun c => c.typed.field.isAutoIncrement).map Column.name =
      t.bareKeys (s.globals defaults)
        ((s.resolve defaults names).schema.options.primaryKeys.foreignColumns
          (s.tables.foreignKeys name)) := by
  obtain ⟨key, t'', -, ht'', hkept⟩ := kept_resolve ht defaults names
  obtain rfl := Option.some.inj (ht'.symm.trans ht'')
  have hall (column : String) :
      ((t'.fields.get? column).any fun f => f.isSupported && f.isAutoIncrement) = true ↔ _ :=
    isAutoIncrement_iff ht ht' hdeclared
  -- The columns are the key's and behind them the others, and none of those counts up.
  rw [Table.map_name_filter_columns, hkept.columns, Table.columnNames, List.append_assoc,
    OrderedMap.eraseDups_append, List.filter_append]
  have hbare : t.keyNames.eraseDups.filter (fun column =>
      (t'.fields.get? column).any fun f => f.isSupported && f.isAutoIncrement) =
        t.bareKeys (s.globals defaults)
          ((s.resolve defaults names).schema.options.primaryKeys.foreignColumns
            (s.tables.foreignKeys name)) := by
    refine List.filter_congr fun column hcolumn => ?_
    rw [Bool.eq_iff_iff, hall, decide_eq_true_iff]
    exact and_iff_right (List.mem_eraseDups.1 hcolumn)
  rw [hbare, List.append_right_eq_self, List.filter_eq_nil_iff]
  intro column hcolumn hauto
  exact ((hall column).1 hauto).2 (List.mem_eraseDups.1 (List.mem_filter.1 hcolumn).1)

/-- A join table has no column that counts up. -/
theorem autoIncrementColumns_of_undeclared {t' : Table} (hname : s.tables.get? name = none)
    (ht' : (s.resolve defaults names).schema.tables.get? name = some t') :
    (t'.columns.filter fun c => c.typed.field.isAutoIncrement).map Column.name = [] := by
  rw [Table.map_name_filter_columns, List.filter_eq_nil_iff]
  intro column _ hauto
  obtain ⟨f, hf, hcounts⟩ := (Option.any_eq_true _ _).1 hauto
  obtain ⟨fk, key, rfl⟩ := eq_joinField_of_undeclared hname ((field?_of_table ht' column).trans hf)
  simp [Field.isAutoIncrement, ForeignKey.joinField, ForeignKey.columnField] at hcounts

end Schema

/-- If no declared column counts up, the columns of a table that do are the bare names of its key,
however many there are. -/
theorem compile_autoIncrementColumns (c : Compiler) (s : Schema)
    (htables : s.tables.isEmpty = false) (hraw : s.isCompiled = false)
    (hdeclared : ∀ name column f, s.field? name column = some f → f.isAutoIncrement = false) :
    ∃ r, c.compile s = .ok r ∧ ∀ layout, .createTable layout ∈ r.script →
      ∃ name ∈ r.schema.tables.keys, layout.name = Naming.physical c.tablePrefix name ∧
        (∀ column ∈ layout.autoIncrementColumns, column ∈ layout.primaryKey) ∧
        layout.autoIncrementColumns = match s.tables.get? name with
          | some t => t.bareKeys (s.globals c.defaults)
              (r.schema.options.primaryKeys.foreignColumns (s.tables.foreignKeys name))
          | none => [] := by
  obtain ⟨r, hr, hschema, -⟩ := c.compile_of_uncompiled htables hraw
  refine ⟨r, hr, fun layout hlayout => ?_⟩
  rw [Compiler.script_of_compile hr] at hlayout
  obtain ⟨⟨name, t'⟩, he, rfl⟩ := Schema.createTable_mem_script_iff.1 hlayout
  have ht' := OrderedMap.mem_entries_iff.1 he
  refine ⟨name, OrderedMap.mem_keys_of_get? ht', rfl, ?_⟩
  rw [hschema] at ht' ⊢
  show (∀ column ∈ (t'.columns.filter _).map Column.name, column ∈ Schema.keyColumns _ name) ∧
    (t'.columns.filter _).map Column.name = _
  cases ht : s.tables.get? name with
  | none =>
      rw [Schema.autoIncrementColumns_of_undeclared ht ht']
      exact ⟨List.forall_mem_nil _, rfl⟩
  | some t =>
      have hfields : ∀ column f, t.fields.get? column = some f → f.isAutoIncrement = false :=
        fun column f hf => hdeclared name column f ((Schema.field?_of_table ht column).trans hf)
      rw [Schema.autoIncrementColumns_of_declared ht ht' hfields, Schema.keyColumns_of_declared ht]
      exact ⟨fun column hcolumn => (List.mem_filter.1 hcolumn).1, rfl⟩

/-- A key of a foreign key, a declared and a bare column, beside keys of one column and a join
table. -/
def shelving : Schema :=
  ({} : Schema)
    |>.addTable "shelf" (({} : Table).hasMany "book" {})
    |>.addTable "book" ((({ options := { primaryKey := some ["shelf_id", "isbn", "copy"] } }
      : Table).withField "isbn" { typeName := "char" }).belongsTo "shelf"
        |>.hasManyToMany "reader" {})
    |>.addTable "reader" (({} : Table).hasManyToMany "book" {})

theorem compile_shelving_autoIncrementColumns :
    shelving.tables.isEmpty = false ∧ shelving.isCompiled = false ∧
      (∀ name column f, shelving.field? name column = some f → f.isAutoIncrement = false) ∧
      ∃ r, ({ names := .counting } : Compiler).compile shelving = .ok r ∧
        ∀ layout, .createTable layout ∈ r.script → layout.autoIncrementColumns.length ≤ 1 ∧
          ∀ column ∈ layout.autoIncrementColumns, column ∈ layout.primaryKey := by
  have hdeclared : ∀ name column f,
      shelving.field? name column = some f → f.isAutoIncrement = false := by
    intro name column f hf
    obtain ⟨t, ht, hget⟩ := Option.bind_eq_some_iff.1 hf
    have hall : ∀ e ∈ shelving.tables.entries, ∀ e' ∈ e.2.fields.entries,
        e'.2.isAutoIncrement = false := by decide
    exact hall (name, t) (OrderedMap.mem_entries_iff.2 ht) (column, f)
      (OrderedMap.mem_entries_iff.2 hget)
  refine ⟨by decide, by decide, hdeclared, ?_⟩
  obtain ⟨r, hr, hall⟩ :=
    compile_autoIncrementColumns { names := .counting } shelving (by decide) (by decide) hdeclared
  refine ⟨r, hr, fun layout hlayout => ?_⟩
  obtain ⟨name, hname, -, hkeys, hcolumns⟩ := hall layout hlayout
  refine ⟨?_, hkeys⟩
  obtain rfl := Except.ok.inj hr
  have hone : ∀ name ∈ (shelving.resolve {} .counting).schema.tables.keys,
      (match shelving.tables.get? name with
        | some t => t.bareKeys (shelving.globals {})
            ((shelving.resolve {} .counting).schema.options.primaryKeys.foreignColumns
              (shelving.tables.foreignKeys name))
        | none => []).length ≤ 1 := by decide
  rw [hcolumns]
  exact hone name hname

/-- A key of two bare columns. -/
def stocktaking : Schema :=
  ({} : Schema).addTable "stock" { options := { primaryKey := some ["item", "depot"] } }

theorem compile_stocktaking_autoIncrementColumns :
    (∀ name column, stocktaking.field? name column = none) ∧
      ∃ r, ({ names := .counting } : Compiler).compile stocktaking = .ok r ∧
        ∃ layout, .createTable layout ∈ r.script ∧ layout.name = "stock" ∧
          layout.autoIncrementColumns = ["item", "depot"] := by
  refine ⟨fun name column => ?_, _, rfl, _,
    Schema.createTable_mem_script_iff.2 ⟨_, List.mem_cons_self, rfl⟩, by decide, by decide⟩
  rw [Schema.field?]
  cases ht : stocktaking.tables.get? name with
  | none => rfl
  | some t =>
      have hall : ∀ e ∈ stocktaking.tables.entries, e.2.fields = {} := by decide
      rw [Option.bind_eq_bind, Option.bind_some, hall (name, t) (OrderedMap.mem_entries_iff.2 ht)]
      rfl

end SchemaDdl
