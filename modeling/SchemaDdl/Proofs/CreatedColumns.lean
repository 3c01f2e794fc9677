import SchemaDdl.Proofs.JoinSides
import SchemaDdl.Proofs.ReferenceTypes
import SchemaDdl.Proofs.ScriptShape

/-!
# Whether a script creates the columns it mentions

A column whose type is not supported is left out when a table is created.
Indexes are made from the columns that are left in, so an index never mentions
a column that is not there. The key of a table and the constraints are taken
from their own indexes instead, which have names and no types, and they go on
mentioning a column that was left out.

What can be left out is little. The columns that a compilation adds are
standard keys, timestamps and copies of key columns, so as long as the key
columns are supported only a declared column can be unsupported, and only if no
timestamp replaces it. `Table.Skips` says this of a column, and
`compile_createsMentioned_iff` says that a script creates all that it mentions
exactly if no key column and no column of a constraint is such a column.
-/

namespace SchemaDdl

/-! ## Supported types -/

/-- Whether the type of the field is known. -/
def Field.isSupported (f : Field) : Bool := (AbstractType.ofName? f.typeName).isSome

theorem Field.Alike.isSupported_eq {a b : Field} (h : a.Alike b) :
    a.isSupported = b.isSupported := by
  rw [isSupported, h.typeName, isSupported]

theorem Field.exists_ofField_iff {f : Field} :
    (∃ x, TypedField.ofField f = .ok x) ↔ f.isSupported = true := by
  simp only [ofField_ok_iff, isSupported, AbstractType.ofName]
  cases AbstractType.ofName? f.typeName with
  | none => simp
  | some t => simp

theorem Table.mem_columns_iff {t : Table} {column : String} :
    column ∈ t.columns.map Sql.Column.name ↔
      ∃ f, t.fields.get? column = some f ∧ f.isSupported = true := by
  simp only [columns, List.mem_map, List.mem_filterMap]
  constructor
  · rintro ⟨c, ⟨⟨name, f⟩, he, hc⟩, rfl⟩
    split at hc
    · next typed hf =>
        rw [← Option.some.inj hc]
        exact ⟨f, OrderedMap.mem_entries_iff.1 he, Field.exists_ofField_iff.1 ⟨typed, hf⟩⟩
    · cases hc
  · rintro ⟨f, hf, hsupported⟩
    obtain ⟨typed, htyped⟩ := Field.exists_ofField_iff.2 hsupported
    have hentry := OrderedMap.mem_entries_iff.2 hf
    exact ⟨⟨column, typed⟩, ⟨(column, f), hentry, by simp only [htyped]⟩, rfl⟩

/-! ## What a script creates -/

namespace Sql

def TableLayout.columnNames (l : TableLayout) : List String := l.columns.map Column.name

/-- The script creates a table of that name with a column of that name. -/
def Creates (script : List Statement) (table column : String) : Prop :=
  ∃ layout, .createTable layout ∈ script ∧ layout.name = table ∧ column ∈ layout.columnNames

/-- Every column that an index, a key or a constraint mentions is created. -/
structure CreatesMentioned (script : List Statement) : Prop where
  indexes : ∀ layout, .createTable layout ∈ script →
    ∀ index ∈ layout.indexes, index.column ∈ layout.columnNames
  keys : ∀ layout, .createTable layout ∈ script →
    ∀ column ∈ layout.primaryKey, column ∈ layout.columnNames
  clauses : ∀ table clauses, .addConstraints table clauses ∈ script → ∀ clause ∈ clauses,
    Creates script table clause.column ∧
      Creates script clause.referencedTable clause.referencedColumn

end Sql

open Sql

theorem Naming.physical_inj {tablePrefix table other : String}
    (h : physical tablePrefix table = physical tablePrefix other) : table = other := by
  rw [physical, physical, String.append_right_inj] at h
  exact h

namespace Schema

variable {s : Schema} {defaults : Settings} {tablePrefix table column : String}

theorem createTable_mem_script_iff {layout : TableLayout} :
    .createTable layout ∈ s.script defaults tablePrefix ↔
      ∃ e ∈ s.tables.entries, layout = s.layoutOf (s.globals defaults) tablePrefix e := by
  have hadditions : Statement.createTable layout ∉ s.additions defaults tablePrefix := by
    rw [additions, ConstraintIndex.additions]
    split
    · simp [Statement.constraintBanner, Statement.banner]
    · exact List.not_mem_nil
  simp only [script, flatMap_tableStatements, List.mem_append, hadditions, List.mem_flatMap,
    Statement.tableBanner, Statement.banner, tableOrders, List.mem_cons, List.not_mem_nil,
    reduceCtorEq, Statement.createTable.injEq, or_false, false_or]

theorem ReferentiallyClosed.addConstraints_mem_script_iff (h : s.ReferentiallyClosed)
    {clauses : List ForeignKeyClause} :
    .addConstraints table clauses ∈ s.script defaults tablePrefix ↔
      (s.globals defaults).constraints = true ∧
        ∃ e ∈ s.options.constraints.entries, table = Naming.physical tablePrefix e.1 ∧
          clauses = e.2.values.map (clauseOf tablePrefix) := by
  simp only [script, flatMap_tableStatements, h.additions_eq, List.mem_append, List.mem_flatMap,
    Statement.tableBanner, Statement.banner, tableOrders, List.mem_cons, List.not_mem_nil,
    reduceCtorEq, and_false, exists_false, or_false, false_or]
  cases (s.globals defaults).constraints with
  | false => simp
  | true => simp [Statement.constraintBanner, Statement.banner, constraintOrder]

theorem field?_of_table {t : Table} (ht : s.tables.get? table = some t) (column : String) :
    s.field? table column = t.fields.get? column := by
  rw [field?, ht]
  rfl

/-- The column is in the table, and its type is supported. -/
def Renders (s : Schema) (table column : String) : Prop :=
  ∃ f, s.field? table column = some f ∧ f.isSupported = true

theorem mem_columnNames_layoutOf_iff {globals : Settings} {e : String × Table}
    (he : e ∈ s.tables.entries) :
    column ∈ (s.layoutOf globals tablePrefix e).columnNames ↔ s.Renders e.1 column := by
  rw [Renders, field?_of_table (OrderedMap.mem_entries_iff.1 he)]
  exact Table.mem_columns_iff

theorem creates_script_iff :
    Creates (s.script defaults tablePrefix) (Naming.physical tablePrefix table) column ↔
      s.Renders table column := by
  simp only [Creates, createTable_mem_script_iff]
  constructor
  · rintro ⟨_, ⟨e, he, rfl⟩, hname, hcolumn⟩
    rw [← Naming.physical_inj hname]
    exact (mem_columnNames_layoutOf_iff he).1 hcolumn
  · intro h
    obtain ⟨t, ht⟩ : ∃ t, s.tables.get? table = some t := by
      obtain ⟨f, hf, -⟩ := id h
      obtain ⟨t, ht, -⟩ := Option.bind_eq_some_iff.1 hf
      exact ⟨t, ht⟩
    have he := OrderedMap.mem_entries_iff.2 ht
    exact ⟨_, ⟨(table, t), he, rfl⟩, rfl, (mem_columnNames_layoutOf_iff he).2 h⟩

/-- An index mentions one of the columns that are left in. -/
theorem indexes_created {layout : TableLayout}
    (h : .createTable layout ∈ s.script defaults tablePrefix) :
    ∀ index ∈ layout.indexes, index.column ∈ layout.columnNames := by
  obtain ⟨e, -, rfl⟩ := createTable_mem_script_iff.1 h
  intro index hindex
  obtain ⟨c, hc, rfl⟩ := List.mem_map.1 hindex
  refine List.mem_map_of_mem ?_
  rcases List.mem_append.1 hc with hc | hc
  · exact (List.mem_filter.1 hc).1
  · exact (List.mem_filter.1 hc).1

theorem mem_keyColumns_iff :
    column ∈ s.keyColumns table ↔
      ∃ key, s.options.primaryKeys.get? table = some key ∧ column ∈ key.keys := by
  rw [Schema.keyColumns]
  cases s.options.primaryKeys.get? table with
  | none => simp
  | some key => simp

/-- Constraints refer to key columns, so beyond the keys only their own columns need be created. -/
theorem ReferentiallyClosed.createsMentioned_script_iff (h : s.ReferentiallyClosed) :
    CreatesMentioned (s.script defaults tablePrefix) ↔
      (∀ table, ∀ column ∈ s.keyColumns table, s.Renders table column) ∧
      ((s.globals defaults).constraints = true → ∀ table constraints,
        s.options.constraints.get? table = some constraints →
          ∀ column ∈ constraints.keys, s.Renders table column) := by
  constructor
  · rintro ⟨-, hkeys, hclauses⟩
    refine ⟨fun table column hcolumn => ?_, fun hon table constraints hget column hc => ?_⟩
    · obtain ⟨key, hkey, -⟩ := mem_keyColumns_iff.1 hcolumn
      obtain ⟨t, ht, -⟩ := h.keyColumns table key hkey
      have he := OrderedMap.mem_entries_iff.2 ht
      exact (mem_columnNames_layoutOf_iff he).1
        (hkeys _ (createTable_mem_script_iff.2 ⟨_, he, rfl⟩) column hcolumn)
    · obtain ⟨c, hc⟩ := OrderedMap.mem_keys_iff.1 hc
      have hmem : c ∈ constraints.values :=
        List.mem_map.2 ⟨(column, c), OrderedMap.mem_entries_iff.2 hc, rfl⟩
      have hstatement : constraintOrder tablePrefix (table, constraints) ∈
          s.script defaults tablePrefix :=
        h.addConstraints_mem_script_iff.2
          ⟨hon, (table, constraints), OrderedMap.mem_entries_iff.2 hget, rfl, rfl⟩
      have hcreated := (hclauses _ _ hstatement _ (List.mem_map_of_mem hmem)).1
      rw [← (h.constraintColumns table constraints column c hget hc).1]
      exact creates_script_iff.1 hcreated
  · rintro ⟨hkeys, hconstrained⟩
    refine ⟨fun _ hlayout => indexes_created hlayout, ?_, ?_⟩
    · intro layout hlayout column hcolumn
      obtain ⟨e, he, rfl⟩ := createTable_mem_script_iff.1 hlayout
      exact (mem_columnNames_layoutOf_iff he).2 (hkeys e.1 column hcolumn)
    · intro table clauses hclauses clause hclause
      obtain ⟨hon, e, he, rfl, rfl⟩ := h.addConstraints_mem_script_iff.1 hclauses
      obtain ⟨c, hmem, rfl⟩ := List.mem_map.1 hclause
      obtain ⟨⟨column, c⟩, hentry, rfl⟩ := List.mem_map.1 hmem
      have hget := OrderedMap.mem_entries_iff.1 he
      have hc := OrderedMap.mem_entries_iff.1 hentry
      obtain ⟨hcolumn, -⟩ := h.constraintColumns e.1 e.2 column c hget hc
      obtain ⟨-, key, -, hkey, hreferenced, -⟩ := h.constraintTargets e.1 e.2 column c hget hc
      refine ⟨creates_script_iff.2 ?_, creates_script_iff.2 ?_⟩
      · rw [clauseOf, hcolumn]
        exact hconstrained hon e.1 e.2 hget column (OrderedMap.mem_keys_of_get? hc)
      · exact hkeys _ _ (mem_keyColumns_iff.2 ⟨key, hkey, hreferenced⟩)

end Schema

/-! ## What is left out -/

namespace Table

variable {globals : Settings} {key : OrderedMap Field} {foreign : List (String × Field)} {t : Table}
  {column : String} {f : Field}

/-- The column is declared with a type that is not supported, and no timestamp replaces it. -/
def Skips (globals : Settings) (t : Table) (column : String) : Prop :=
  column ∉ t.stamps globals ∧ ∃ f, t.fields.get? column = some f ∧ f.isSupported = false

instance : Decidable (t.Skips globals column) :=
  decidable_of_iff (column ∉ t.stamps globals ∧
    (t.fields.get? column).any (fun f => !f.isSupported) = true) (by
      simp only [Skips, Option.any_eq_true, Bool.not_eq_true'])

theorem skips_iff :
    t.Skips globals column ↔
      ∃ f, (t.settled globals).fields.get? column = some f ∧ f.isSupported = false := by
  rw [Skips, ← stampedAt_iff, get?_fields_settled]
  cases t.stampedAt globals column with
  | true =>
      refine iff_of_false (fun h => h.1 rfl) ?_
      rintro ⟨f, hf, hunsupported⟩
      obtain rfl := Option.some.inj hf
      cases hunsupported
  | false => simp

theorem isSupported_of_settled (h : ¬ t.Skips globals column)
    (hf : (t.settled globals).fields.get? column = some f) : f.isSupported = true := by
  by_contra hunsupported
  exact h (skips_iff.2 ⟨f, hf, Bool.eq_false_iff.2 hunsupported⟩)

theorem isSupported_of_skips (h : t.Skips globals column)
    (hf : t.definition? globals key foreign column = some f) : f.isSupported = false := by
  obtain ⟨declared, hdeclared, hunsupported⟩ := skips_iff.1 h
  rw [definition?_eq, hdeclared, Option.some_or] at hf
  exact Option.some.inj hf ▸ hunsupported

theorem isSupported_of_not_skips (h : ¬ t.Skips globals column)
    (hkey : ∀ f, key.get? column = some f → f.isSupported = true)
    (hforeign : ∀ e ∈ foreign, e.2.isSupported = true)
    (hf : t.definition? globals key foreign column = some f) : f.isSupported = true := by
  rw [definition?_eq, Option.or_eq_some_iff, Option.or_eq_some_iff] at hf
  rcases hf with hsettled | ⟨-, hlookup | ⟨-, hkeyed⟩⟩
  · exact isSupported_of_settled h hsettled
  · exact hforeign (column, f) (List.mem_reverse.1 (mem_of_lookup hlookup))
  · exact hkey f hkeyed

/-- A table has supported key columns if it skips none of those that it lists. -/
theorem isSupported_of_keyFields (h : ∀ column ∈ t.keyNames, ¬ t.Skips globals column)
    (hf : (t.settled globals).keyFields.get? column = some f) : f.isSupported = true := by
  have hmem : column ∈ t.keyNames := by
    have hkeys := OrderedMap.mem_keys_of_get? hf
    rwa [mem_keys_keyFields, settled_primaryKey] at hkeys
  rw [eq_of_get?_keyFields hf]
  split
  · cases hsettled : (t.settled globals).fields.get? column with
    | none => rfl
    | some declared => exact isSupported_of_settled (h column hmem) hsettled
  · rfl

end Table

/-- All key columns have supported types. -/
def KeyIndex.IsSupported (keys : KeyIndex) : Prop :=
  ∀ name key column f, keys.get? name = some key → key.get? column = some f → f.isSupported = true

/-- Foreign key columns are copies of key columns. -/
theorem KeyIndex.IsSupported.foreignColumns {keys : KeyIndex} (h : keys.IsSupported)
    (l : List (String × ForeignKey)) : ∀ e ∈ keys.foreignColumns l, e.2.isSupported = true := by
  intro e he
  obtain ⟨reference, -, hcopy⟩ := List.mem_filterMap.1 he
  split at hcopy
  · next column f hf =>
      obtain ⟨key, hkey, hcolumn⟩ := referenced_ok hf
      rw [← Option.some.inj hcopy, (reference.2.columnField_alike f).isSupported_eq]
      exact h _ key column f hkey hcolumn
  · cases hcopy

namespace Schema

variable {s : Schema} {defaults : Settings} {names : NameSource}

/-- No column of a key is skipped, nor of a constraint where constraints are added. -/
structure SupportsMentioned (s : Schema) (defaults : Settings) (constraints : ConstraintIndex) :
    Prop where
  keys : ∀ name t, s.tables.get? name = some t →
    ∀ column ∈ t.keyNames, ¬ t.Skips (s.globals defaults) column
  constrained : (s.globals defaults).constraints = true → ∀ name t fromTable,
    s.tables.get? name = some t → constraints.get? name = some fromTable →
      ∀ column ∈ fromTable.keys, ¬ t.Skips (s.globals defaults) column

/-- If the listed key columns are supported then so are those of the join tables, their copies. -/
theorem SupportsMentioned.isSupported_primaryKeys {constraints : ConstraintIndex}
    (h : s.SupportsMentioned defaults constraints) (names : NameSource) :
    (s.resolve defaults names).schema.options.primaryKeys.IsSupported := by
  have hdeclared : ∀ {name t key column f}, s.tables.get? name = some t →
      (s.resolve defaults names).schema.options.primaryKeys.get? name = some key →
      key.get? column = some f → f.isSupported = true := by
    intro name t key column f ht hkey hf
    obtain rfl := Option.some.inj (hkey.symm.trans (joined_of_declared ht defaults names).2)
    exact Table.isSupported_of_keyFields (h.keys name t ht) hf
  have hside : ∀ {table other r column f}, s.tables.JoinsTo table other r →
      (s.resolve defaults names).schema.options.primaryKeys.referenced table (r.resolve table) =
        .ok (column, f) → f.isSupported = true := by
    intro table other r column f hr hf
    obtain ⟨t, ht, -⟩ := hr
    obtain ⟨key, hkey, hcolumn⟩ := KeyIndex.referenced_ok hf
    exact hdeclared ht hkey hcolumn
  intro name key column f hkey hf
  obtain ⟨made, hmade⟩ := s.madeOf_joined defaults names
  rcases hmade.get?_keys_iff.1 hkey with hkeyed | ⟨t, ht, rfl, rfl⟩
  · rw [keyed, KeyedTables.get?_keys_ofTables, Option.map_map, Option.map_eq_some_iff] at hkeyed
    obtain ⟨t, ht, -⟩ := hkeyed
    exact hdeclared ht hkey hf
  · obtain ⟨names', hcolumns⟩ := ofSides_of_made hmade ht
    obtain ⟨ca, ka, cb, kb, ha, hb, hfields, -⟩ := JoinColumns.ofSides_pair hcolumns
    rw [hfields, OrderedMap.get?_pair] at hf
    split at hf
    · rw [← Option.some.inj hf, (ForeignKey.joinField_alike _ kb).isSupported_eq]
      exact hside (hmade.joins t ht).joins_reciprocal hb
    · split at hf
      · rw [← Option.some.inj hf, (ForeignKey.joinField_alike _ ka).isSupported_eq]
        exact hside (hmade.joins t ht).joins_declaration ha
      · cases hf

theorem not_skips_of_renders {name column : String} {t : Table} (ht : s.tables.get? name = some t)
    (h : (s.resolve defaults names).schema.Renders name column) :
    ¬ t.Skips (s.globals defaults) column := by
  intro hskips
  obtain ⟨f, hf, hsupported⟩ := h
  obtain ⟨key, t', -, ht', hkept⟩ := kept_resolve ht defaults names
  rw [field?_of_table ht', hkept.definitions] at hf
  have hunsupported := Table.isSupported_of_skips hskips hf
  exact Bool.false_ne_true (hunsupported.symm.trans hsupported)

theorem renders_of_not_skips
    (hkeys : (s.resolve defaults names).schema.options.primaryKeys.IsSupported)
    {name column : String} {t t' : Table} (ht : s.tables.get? name = some t)
    (ht' : (s.resolve defaults names).schema.tables.get? name = some t')
    (hcolumn : column ∈ t'.fields.keys) (h : ¬ t.Skips (s.globals defaults) column) :
    (s.resolve defaults names).schema.Renders name column := by
  obtain ⟨f, hf⟩ := OrderedMap.mem_keys_iff.1 hcolumn
  obtain ⟨key, t'', hkey, ht'', hkept⟩ := kept_resolve ht defaults names
  obtain rfl := Option.some.inj (ht'.symm.trans ht'')
  refine ⟨f, (field?_of_table ht' column).trans hf, ?_⟩
  rw [hkept.definitions] at hf
  exact Table.isSupported_of_not_skips h (hkeys name key column · hkey) (hkeys.foreignColumns _) hf

/-- All columns of a join table are key columns. -/
theorem renders_of_undeclared
    (hkeys : (s.resolve defaults names).schema.options.primaryKeys.IsSupported)
    {name column : String} {t' : Table} (ht : s.tables.get? name = none)
    (ht' : (s.resolve defaults names).schema.tables.get? name = some t')
    (hcolumn : column ∈ t'.fields.keys) :
    (s.resolve defaults names).schema.Renders name column := by
  obtain ⟨f, hf⟩ := OrderedMap.mem_keys_iff.1 hcolumn
  obtain ⟨made, hmade⟩ := s.madeOf_joined defaults names
  have hname := OrderedMap.mem_keys_of_get? ht'
  rcases (mem_keys_tables_resolve_iff hmade).1 hname with hdeclared | ⟨t, hmem, rfl⟩
  · exact absurd hdeclared (OrderedMap.get?_eq_none_iff.1 ht)
  · obtain rfl := Option.some.inj (ht'.symm.trans (get?_tables_of_made hmade hmem))
    have hkey := hmade.get?_keys_iff.2 (.inr ⟨t, hmem, rfl, rfl⟩)
    exact ⟨f, (field?_of_table ht' column).trans hf, hkeys t.name _ column f hkey hf⟩

theorem createsMentioned_resolve_iff (s : Schema) (defaults : Settings) (names : NameSource)
    (tablePrefix : String) :
    CreatesMentioned ((s.resolve defaults names).schema.script defaults tablePrefix) ↔
      s.SupportsMentioned defaults (s.resolve defaults names).schema.options.constraints := by
  have hclosed := s.referentiallyClosed_resolve defaults names
  rw [hclosed.createsMentioned_script_iff]
  constructor
  · rintro ⟨hkeys, hconstrained⟩
    refine ⟨fun name t ht column hcolumn => ?_, fun hon name t fromTable ht hget column hc => ?_⟩
    · obtain ⟨key, _, hkey, -, hkept⟩ := kept_resolve ht defaults names
      refine not_skips_of_renders ht (hkeys name column (mem_keyColumns_iff.2 ⟨key, hkey, ?_⟩))
      rw [hkept.keyed]
      exact List.mem_eraseDups.2 hcolumn
    · exact not_skips_of_renders ht (hconstrained hon name fromTable hget column hc)
  · intro h
    have hsupported := h.isSupported_primaryKeys names
    have hrenders : ∀ name column t', (s.resolve defaults names).schema.tables.get? name = some t' →
        column ∈ t'.fields.keys →
        (∀ t, s.tables.get? name = some t → ¬ t.Skips (s.globals defaults) column) →
        (s.resolve defaults names).schema.Renders name column := by
      intro name column t' ht' hcolumn hnone
      cases ht : s.tables.get? name with
      | none => exact renders_of_undeclared hsupported ht ht' hcolumn
      | some t => exact renders_of_not_skips hsupported ht ht' hcolumn (hnone t ht)
    refine ⟨fun name column hcolumn => ?_, fun hon name constraints hget column hmem => ?_⟩
    · obtain ⟨key, hkey, hmem⟩ := mem_keyColumns_iff.1 hcolumn
      obtain ⟨t', ht', hall⟩ := hclosed.keyColumns name key hkey
      refine hrenders name column t' ht' (hall column hmem) fun t ht => h.keys name t ht column ?_
      obtain ⟨key', _, hkey', -, hkept⟩ := kept_resolve ht defaults names
      obtain rfl := Option.some.inj (hkey.symm.trans hkey')
      rw [hkept.keyed] at hmem
      exact List.mem_eraseDups.1 hmem
    · obtain ⟨c, hc⟩ := OrderedMap.mem_keys_iff.1 hmem
      obtain ⟨-, t', ht', hcolumn⟩ := hclosed.constraintColumns name constraints column c hget hc
      exact hrenders name column t' ht' hcolumn fun t ht =>
        h.constrained hon name t constraints ht hget column hmem

end Schema

/-- Of what a script mentions the columns of indexes are always created, and the others exactly if
no column of a key or of a constraint that is added is skipped. -/
theorem compile_createsMentioned_iff (c : Compiler) (s : Schema)
    (htables : s.tables.isEmpty = false) (hraw : s.isCompiled = false) :
    ∃ r, c.compile s = .ok r ∧
      (∀ layout, .createTable layout ∈ r.script →
        ∀ index ∈ layout.indexes, index.column ∈ layout.columnNames) ∧
      (CreatesMentioned r.script ↔
        s.SupportsMentioned c.defaults r.schema.options.constraints) := by
  obtain ⟨r, hr, hschema, -⟩ := c.compile_of_uncompiled htables hraw
  refine ⟨r, hr, ?_⟩
  rw [Compiler.script_of_compile hr, hschema]
  exact ⟨fun _ hlayout => Schema.indexes_created hlayout,
    s.createsMentioned_resolve_iff c.defaults c.names c.tablePrefix⟩

/-- Columns of no known type, none of them mentioned: one is not a key column, and in the place of
the other stands a timestamp. -/
def sketches : Schema :=
  ({} : Schema)
    |>.addTable "plan" ((({ options := { primaryKey := some ["code", "created"] } } : Table)
      |>.withField "code" { typeName := "char" } |>.withField "drawing" { typeName := "geometry" }
      |>.withField "created" { typeName := "instant" }).belongsTo "house")
    |>.addTable "house" (({} : Table).hasMany "plan" {})

theorem compile_sketches_createsMentioned :
    sketches.tables.isEmpty = false ∧ sketches.isCompiled = false ∧
      ∃ r, ({ names := .counting } : Compiler).compile sketches = .ok r ∧
        CreatesMentioned r.script := by
  refine ⟨by decide, by decide, ?_⟩
  obtain ⟨r, hr, -, hiff⟩ :=
    compile_createsMentioned_iff { names := .counting } sketches (by decide) (by decide)
  refine ⟨r, hr, hiff.2 ⟨fun name t ht => ?_, fun _ name t fromTable ht hget => ?_⟩⟩
  · have hall : ∀ e ∈ sketches.tables.entries, ∀ column ∈ e.2.keyNames,
        ¬ e.2.Skips (sketches.globals {}) column := by decide
    exact hall (name, t) (OrderedMap.mem_entries_iff.2 ht)
  · obtain rfl := Except.ok.inj hr
    have hall : ∀ e ∈ sketches.tables.entries,
        ∀ e' ∈ (sketches.resolve {} .counting).schema.options.constraints.entries, e'.1 = e.1 →
          ∀ column ∈ e'.2.keys, ¬ e.2.Skips (sketches.globals {}) column := by decide
    exact hall (name, t) (OrderedMap.mem_entries_iff.2 ht) (name, fromTable)
      (OrderedMap.mem_entries_iff.2 hget) rfl

/-- A key column and a foreign key column of a type that is not known. -/
def unmapped : Schema :=
  ({} : Schema)
    |>.addTable "place" (({ options := { primaryKey := some ["shape"] } } : Table).withField "shape"
      { typeName := "geometry" })
    |>.addTable "user" (({} : Table).hasMany "post" {})
    |>.addTable "post" ((({} : Table).withField "user_id" { typeName := "geometry" }).belongsTo
      "user")

theorem compile_unmapped_not_createsMentioned :
    ∃ r, ({ names := .counting } : Compiler).compile unmapped = .ok r ∧
      (∃ layout, .createTable layout ∈ r.script ∧ layout.name = "place" ∧
        layout.primaryKey = ["shape"] ∧ "shape" ∉ layout.columnNames) ∧
      .addConstraints "post"
        [⟨"FK_000000000000001", "user_id", "user", "id", .restrict, .noAction⟩] ∈ r.script ∧
      ¬ Creates r.script "post" "user_id" ∧ ¬ CreatesMentioned r.script := by
  have hpost : ¬ (unmapped.resolve {} .counting).schema.Renders "post" "user_id" := by
    rintro ⟨f, hf, hsupported⟩
    obtain rfl := Option.some.inj hf
    cases hsupported
  refine ⟨_, rfl, ⟨_, Schema.createTable_mem_script_iff.2 ⟨_, List.mem_cons_self, rfl⟩, by decide,
    by decide, by decide⟩, by decide +kernel, ?_, ?_⟩
  · exact fun h => hpost (Schema.creates_script_iff.1 h)
  · intro h
    have hsupports := (unmapped.createsMentioned_resolve_iff {} .counting "").1 h
    exact hsupports.keys "place" _ rfl "shape" (by decide) (by decide)

end SchemaDdl
