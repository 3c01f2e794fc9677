import SchemaDdl.Proofs.CompiledNames
import SchemaDdl.Proofs.Recompilation

/-!
# What becomes of a declaration

A declared table is still there when the schema is compiled, in its place among
the others and with its relations, its list of key columns and its mark as they
were written. Its settings are filled in, and columns are added to it. A column
may have a name that the table has four reasons for: it can be listed as a key
column, belong to a foreign key, be declared, and be a timestamp. Two rules
settle every overlap, and they run in opposite directions. The place of a
column is where its name comes up first in the order key, foreign keys,
declared columns, timestamps; its definition is that of the last source which
has it.

`Table.KeptIn` states both for one table, in terms of the table that was
declared and of the key index that the compiled schema stores, and
`compile_keeps` says that every declared table is kept in this sense and that
only join tables come behind them.
-/

namespace SchemaDdl

/-! ## The columns of a table by their sources -/

namespace Table

/-- The timestamps that a table gets. -/
def stamps (globals : Settings) (t : Table) : List String :=
  if (t.options.onto globals).timestamps then timestampColumns else []

theorem stampedAt_iff {globals : Settings} {t : Table} {column : String} :
    t.stampedAt globals column = true ↔ column ∈ t.stamps globals := by
  rw [stampedAt, stamps]
  cases (t.options.onto globals).timestamps with
  | false => simp
  | true => simp

/-- The names of the key columns as the table lists them. -/
def keyNames (t : Table) : List String := t.options.primaryKey.getD [standardKeyColumn]

/-- The names of all columns, from each source in order; a name may come up more than once. -/
def columnNames (globals : Settings) (foreign : List (String × Field)) (t : Table) : List String :=
  t.keyNames ++ foreign.map Prod.fst ++ (t.fields.keys ++ t.stamps globals)

/-- The definition of a column by the last source that has it; of several foreign keys of one
name the last. -/
def definition? (globals : Settings) (key : OrderedMap Field) (foreign : List (String × Field))
    (t : Table) (column : String) : Option Field :=
  if column ∈ t.stamps globals then some .timestamp
  else (t.fields.get? column).or ((foreign.reverse.lookup column).or (key.get? column))

/-- Declared columns and timestamps stand together in the settled table. -/
theorem definition?_eq (globals : Settings) (key : OrderedMap Field) (foreign : List (String × Field))
    (t : Table) (column : String) :
    t.definition? globals key foreign column =
      ((t.settled globals).fields.get? column).or
        ((foreign.reverse.lookup column).or (key.get? column)) := by
  rw [definition?, get?_fields_settled]
  by_cases hstamp : t.stampedAt globals column = true
  · rw [if_pos hstamp, if_pos (stampedAt_iff.1 hstamp), Option.some_or]
  · rw [if_neg hstamp, if_neg fun hmem => hstamp (stampedAt_iff.2 hmem)]

theorem keys_keyFields (t : Table) : t.keyFields.keys = t.keyNames.eraseDups := by
  rw [keyFields, keyNames]
  cases t.options.primaryKey with
  | none => rfl
  | some columns =>
      rw [OrderedMap.keys_ofList, List.map_map]
      exact congrArg List.eraseDups (List.map_id columns)

theorem keys_fields_settled (globals : Settings) (t : Table) :
    (t.settled globals).fields.keys = (t.fields.keys ++ t.stamps globals).eraseDups := by
  rw [settled, stamps]
  cases (t.options.onto globals).timestamps with
  | false =>
      rw [if_neg Bool.false_ne_true, if_neg Bool.false_ne_true, List.append_nil]
      exact t.fields.keys_eraseDups
  | true =>
      rw [if_pos rfl, if_pos rfl, withTimestamps_fields,
        OrderedMap.keys_insertAll_eraseDups t.fields.keys_eraseDups, List.map_map]
      rfl

/-- What is kept of a declared table in the compiled one. `key` are its key columns in the index,
`foreign` its foreign keys that find a key there. -/
structure KeptIn (globals : Settings) (key : OrderedMap Field) (foreign : List (String × Field))
    (t t' : Table) : Prop where
  manyToOne : t'.manyToOne = t.manyToOne
  oneToMany : t'.oneToMany = t.oneToMany
  oneToOne : t'.oneToOne = t.oneToOne
  manyToMany : t'.manyToMany = t.manyToMany
  primaryKey : t'.options.primaryKey = t.options.primaryKey
  joinTable : t'.options.joinTable = t.options.joinTable
  settings : t'.options.settings = .ofSettings (t.options.onto globals)
  keyed : key.keys = t.keyNames.eraseDups
  columns : t'.fields.keys = (t.columnNames globals foreign).eraseDups
  definitions : ∀ column, t'.fields.get? column = t.definition? globals key foreign column

/-- Columns merged below those of a settled table keep what was declared. -/
theorem keptIn_merged (globals : Settings) (foreign : List (String × Field)) (t : Table) :
    t.KeptIn globals (t.settled globals).keyFields foreign
      { t.settled globals with
        fields := mergeColumns (some (t.settled globals).keyFields) (.ofList foreign)
          (t.settled globals).fields } where
  manyToOne := t.settled_manyToOne globals
  oneToMany := t.settled_oneToMany globals
  oneToOne := t.settled_oneToOne globals
  manyToMany := t.settled_manyToMany globals
  primaryKey := t.settled_primaryKey globals
  joinTable := by
    show (t.settled globals).options.joinTable = _
    rw [settled_options]
    rfl
  settings := by
    show (t.settled globals).options.settings = _
    rw [settled_options]
    exact congrArg Overrides.ofSettings (t.options.settings.onto_onto globals)
  keyed := by rw [keys_keyFields, keyNames, settled_primaryKey, keyNames]
  columns := by
    have hkey : (t.settled globals).keyFields.keys = t.keyNames.eraseDups := by
      rw [keys_keyFields, keyNames, settled_primaryKey, keyNames]
    have hforeign : (OrderedMap.ofList foreign).keys = (foreign.map Prod.fst).eraseDups :=
      OrderedMap.keys_ofList foreign
    exact OrderedMap.keys_extend_eraseDups (OrderedMap.keys_extend_eraseDups hkey hforeign)
      (t.keys_fields_settled globals)
  definitions := by
    intro column
    show (mergeColumns _ _ _).get? column = _
    rw [get?_mergeColumns, OrderedMap.get?_ofList, Option.getD_some, definition?_eq]

end Table

/-! ## The declared tables in the compiled schema -/

namespace Schema

variable {s : Schema} {defaults : Settings} {names : NameSource}

theorem kept_resolve {name : String} {t : Table} (ht : s.tables.get? name = some t)
    (defaults : Settings) (names : NameSource) :
    ∃ key t', (s.resolve defaults names).schema.options.primaryKeys.get? name = some key ∧
      (s.resolve defaults names).schema.tables.get? name = some t' ∧
      t.KeptIn (s.globals defaults) key
        ((s.resolve defaults names).schema.options.primaryKeys.foreignColumns
          (s.tables.foreignKeys name)) t' := by
  obtain ⟨htable, hkey⟩ := joined_of_declared ht defaults names
  refine ⟨_, _, hkey, ?_, t.keptIn_merged (s.globals defaults) _⟩
  rw [get?_tables_resolve, htable, hkey]
  rfl

/-- Behind the declared tables stand the join tables that were made. -/
theorem keys_tables_resolve_eq_reports (s : Schema) (defaults : Settings) (names : NameSource) :
    (s.resolve defaults names).schema.tables.keys =
      s.tables.keys ++ (s.joined defaults names).reports.map Prod.fst := by
  obtain ⟨made, hmade⟩ := s.madeOf_joined defaults names
  rw [keys_tables_resolve, hmade.keys_tables, hmade.reports, List.map_map, keyed,
    KeyedTables.keys_tables_ofTables]
  rfl

/-- A reported join table joins two sides that declare the relation to each other. -/
theorem joins_of_report {report : String × String × String}
    (h : report ∈ (s.joined defaults names).reports) :
    ∃ ra rb, s.tables.JoinsTo report.2.1 report.2.2 ra ∧ s.tables.JoinsTo report.2.2 report.2.1 rb ∧
      (s.resolve defaults names).schema.Joins (s.globals defaults) report.1
        [(report.2.1, ra), (report.2.2, rb)] := by
  obtain ⟨made, hmade⟩ := s.madeOf_joined defaults names
  obtain ⟨t, ht, rfl⟩ := hmade.mem_reports_iff.1 h
  exact ⟨t.declaration.relation, t.reciprocal, (hmade.joins t ht).joins_declaration,
    (hmade.joins t ht).joins_reciprocal, joins_of_made hmade ht⟩

end Schema

/-- Compiling keeps the declared tables in their order with what they declare and adds nothing
but join tables behind them. -/
theorem compile_keeps (c : Compiler) (s : Schema) (htables : s.tables.isEmpty = false)
    (hraw : s.isCompiled = false) :
    ∃ r, c.compile s = .ok r ∧
      r.schema.tables.keys = s.tables.keys ++ r.joinTables.map Prod.fst ∧
      (∀ made ∈ r.joinTables, ∃ ra rb, s.tables.JoinsTo made.2.1 made.2.2 ra ∧
        s.tables.JoinsTo made.2.2 made.2.1 rb ∧
        r.schema.Joins (s.globals c.defaults) made.1 [(made.2.1, ra), (made.2.2, rb)]) ∧
      ∀ name t, s.tables.get? name = some t →
        ∃ key t', r.schema.options.primaryKeys.get? name = some key ∧
          r.schema.tables.get? name = some t' ∧
          t.KeptIn (s.globals c.defaults) key
            (r.schema.options.primaryKeys.foreignColumns (s.tables.foreignKeys name)) t' := by
  obtain ⟨r, hr, hschema, hnotes⟩ := c.compile_of_uncompiled htables hraw
  have hreports := Compilation.joinTables_eq_reports hnotes
  refine ⟨r, hr, ?_, fun made hmade => ?_, fun name t ht => ?_⟩
  · rw [hschema, hreports]
    exact s.keys_tables_resolve_eq_reports c.defaults c.names
  · rw [hreports] at hmade
    rw [hschema]
    exact Schema.joins_of_report hmade
  · rw [hschema]
    exact Schema.kept_resolve ht c.defaults c.names

/-- A table all of whose columns have more than one source. -/
def overlapping : Schema :=
  ({} : Schema)
    |>.addTable "note" ((({ options := { primaryKey := some ["owner_id", "created", "owner_id"] } }
      : Table).withField "deleted" { typeName := "int" }).withField "owner_id"
        { typeName := "bigint" } |>.belongsTo "user" |>.hasOne "owner" {})
    |>.addTable "user" (({} : Table).hasMany "note" { column := some "deleted" })
    |>.addTable "owner" {}

theorem compile_overlapping_keeps :
    overlapping.tables.isEmpty = false ∧ overlapping.isCompiled = false ∧
      ∃ r t t', ({ names := .counting } : Compiler).compile overlapping = .ok r ∧
        overlapping.tables.get? "note" = some t ∧ r.schema.tables.get? "note" = some t' ∧
        t'.fields.keys = ["owner_id", "created", "deleted", "updated"] ∧
        t'.fields.get? "owner_id" = some { typeName := "bigint" } ∧
        t'.fields.get? "deleted" = some .timestamp := by
  refine ⟨by decide, by decide, ?_⟩
  obtain ⟨r, hr, -, -, hkept⟩ :=
    compile_keeps { names := .counting } overlapping (by decide) (by decide)
  obtain ⟨key, t', hkey, ht', h⟩ := hkept "note" _ rfl
  refine ⟨r, _, t', hr, rfl, ht', ?_⟩
  obtain rfl := Except.ok.inj hr
  obtain rfl := Option.some.inj hkey
  rw [h.columns, h.definitions, h.definitions]
  decide

end SchemaDdl
