import SchemaDdl.Proofs.ReferentialClosure
import SchemaDdl.Proofs.SymmetricJoin

/-!
# Resolving twice and compiling twice

A resolved schema is a schema, and nothing forbids to resolve it once more. The
second time every pass meets what the first time left behind, and each leaves
it as it is for a reason of its own.

The options of a table are all set and its timestamps are stored, so settling
it changes nothing; `IsSettled` is that state. The key index is made anew from
merged columns and its definitions may well differ from the first ones, but the
names in it and their order do not: `SameColumns`. So the same foreign keys
find a key, their columns get the same names, and merging them below columns
that already stand in this order has no effect. Of the many-to-many relations a
visit looks for up to three names before it makes a join table; after the first
run one of the three is taken for every pair, whether by the join table of the
pair or by another table, and names are never given back.

`resolve_resolve_tables` puts this together. Compiling is simpler, because a
compiled schema is recognised by its key index and only rendered; what has to
be shown is that resolving leaves an index that is not empty, which it does even
if no table has a key, since a table without a key is still in the index.
-/

namespace SchemaDdl

/-! ## Settled tables -/

theorem TableOptions.fillFrom_fillFrom (o : TableOptions) (s s' : Settings) :
    (o.fillFrom s).fillFrom s' = o.fillFrom s := rfl

namespace Table

/-- All settings are set, and timestamps are stored if there are to be any. -/
structure IsSettled (globals : Settings) (t : Table) : Prop where
  options : t.options.fillFrom (t.options.onto globals) = t.options
  timestamps : (t.options.onto globals).timestamps = true →
    ∀ column ∈ timestampColumns, t.fields.get? column = some .timestamp

theorem settled_options (globals : Settings) (t : Table) :
    (t.settled globals).options = t.options.fillFrom (t.options.onto globals) := by
  rw [settled]
  split
  · rfl
  · rfl

theorem isSettled_settled (globals : Settings) (t : Table) :
    (t.settled globals).IsSettled globals := by
  have honto : (t.settled globals).options.onto globals = t.options.onto globals := by
    rw [settled_options]
    exact t.options.settings.onto_onto globals
  refine ⟨?_, fun hstamps column hcolumn => ?_⟩
  · rw [settled_options]
    exact t.options.fillFrom_fillFrom _ _
  · rw [honto] at hstamps
    rw [get?_fields_settled, stampedAt, hstamps, Bool.true_and, if_pos (decide_eq_true hcolumn)]

theorem IsSettled.settled_eq {globals : Settings} {t : Table} (h : t.IsSettled globals) :
    t.settled globals = t := by
  rw [settled, h.options]
  split
  · next hstamps =>
      have hfields : t.fields.insertAll (timestampColumns.map (·, .timestamp)) = t.fields := by
        refine OrderedMap.insertAll_eq_self fun e he => ?_
        obtain ⟨column, hcolumn, rfl⟩ := List.mem_map.1 he
        exact OrderedMap.mem_entries_iff.2 (h.timestamps hstamps column hcolumn)
      show { t with fields := t.withTimestamps.fields } = t
      rw [withTimestamps_fields, hfields]
  · rfl

/-- Columns merged below those of a settled table do not unsettle it. -/
theorem IsSettled.merged {globals : Settings} {t : Table} (h : t.IsSettled globals)
    (key : Option (OrderedMap Field)) (foreign : OrderedMap Field) :
    { t with fields := mergeColumns key foreign t.fields }.IsSettled globals := by
  refine ⟨h.options, fun hstamps column hcolumn => ?_⟩
  show (mergeColumns key foreign t.fields).get? column = some .timestamp
  rw [get?_mergeColumns, h.timestamps hstamps column hcolumn, Option.some_or]

/-- The names of the key columns depend on the key that is listed alone. -/
theorem keys_keyFields_congr {t t' : Table} (h : t.options.primaryKey = t'.options.primaryKey) :
    t.keyFields.keys = t'.keyFields.keys := by
  rw [keyFields, keyFields, h]
  cases t'.options.primaryKey with
  | none => rfl
  | some columns =>
      refine OrderedMap.keys_insertAll_congr rfl ?_
      rw [List.map_map, List.map_map]
      rfl

end Table

theorem JoinColumns.isSettled_table (globals : Settings) (c : JoinColumns) :
    (c.table globals).IsSettled globals :=
  ⟨rfl, fun hstamps => by cases hstamps⟩

/-! ## Merging again -/

theorem mergeColumns_mergeColumns {key key' : Option (OrderedMap Field)}
    {foreign foreign' declared : OrderedMap Field}
    (hkey : (key'.getD {}).keys = (key.getD {}).keys) (hforeign : foreign'.keys = foreign.keys) :
    mergeColumns key' foreign' (mergeColumns key foreign declared) =
      mergeColumns key foreign declared := by
  have hkeys : ((key'.getD {}).extend foreign').keys = ((key.getD {}).extend foreign).keys :=
    OrderedMap.keys_extend_congr hkey hforeign
  refine OrderedMap.extend_eq_of_prefix ?_
  rw [hkeys]
  exact OrderedMap.keys_prefix_extend _ declared

/-! ## Names that a visit leaves taken -/

namespace JoinedTables

variable {globals : Settings} {k : KeyedTables} {j : JoinedTables} {made : List JoinTable}
  {a b : String} {ra rb : Relation}

theorem keys_tables_add_subset (globals : Settings) (j : JoinedTables) (d : ManyToMany) :
    j.tables.keys ⊆ (j.add globals d).tables.keys := by
  by_cases hfree : ∃ t, j.Free globals d t
  · obtain ⟨t, ht⟩ := hfree
    rw [add_of_free ht]
    exact fun name hname => OrderedMap.mem_keys_insert.2 (.inl hname)
  · rw [(add_of_not_free fun t ht => hfree ⟨t, ht⟩).tables]
    exact List.Subset.refl _

namespace MadeOf

/-- A visit to a pair leaves one of the names that it looked for taken. -/
theorem exists_taken_add (h : MadeOf globals k j made) (hk : k.Complete) (p : k.Pair a b ra rb) :
    ∃ name ∈ visitedNames ⟨a, b, ra⟩ rb, name ∈ (j.add globals ⟨a, b, ra⟩).tables.keys := by
  by_cases htaken : ∃ name ∈ visitedNames ⟨a, b, ra⟩ rb, name ∈ j.tables.keys
  · obtain ⟨name, hname, hmem⟩ := htaken
    exact ⟨name, hname, keys_tables_add_subset globals j _ hmem⟩
  · obtain ⟨t, ht⟩ := h.free_of_pair hk p fun name hname hmem => htaken ⟨name, hname, hmem⟩
    refine ⟨joinTableName ⟨a, b, ra⟩ rb, by simp [visitedNames], ?_⟩
    rw [add_of_free ht, ← h.name_of_free p ht]
    exact OrderedMap.mem_keys_insert.2 (.inr rfl)

/-- A run that visits a pair leaves one of the names that the visit looked for taken. -/
theorem exists_taken_foldl (h : MadeOf globals k j made) (hk : k.Complete) (p : k.Pair a b ra rb)
    {ds : List ManyToMany} (hds : ∀ d ∈ ds, d ∈ k.tables.manyToMany) (hpair : ⟨a, b, ra⟩ ∈ ds) :
    ∃ name ∈ visitedNames ⟨a, b, ra⟩ rb,
      name ∈ (ds.foldl (JoinedTables.add globals) j).tables.keys := by
  refine h.foldl_of_visit
    (P := fun j => ∃ name ∈ visitedNames ⟨a, b, ra⟩ rb, name ∈ j.tables.keys) hk
    (fun hmade => hmade.exists_taken_add hk p) ?_ hds hpair
  rintro j d ⟨name, hname, hmem⟩
  exact ⟨name, hname, keys_tables_add_subset globals j d hmem⟩

theorem eq_of_nothing_made (h : MadeOf globals k j []) : j.tables = k.tables ∧ j.keys = k.keys := by
  refine ⟨OrderedMap.ext_entries ?_, OrderedMap.ext_entries ?_⟩
  · rw [h.tables, List.map_nil, List.append_nil]
  · rw [h.keys, List.map_nil, List.append_nil]

/-- Where every visit finds a name taken from the start, nothing is made. -/
theorem foldl_of_taken (h : MadeOf globals k j []) (hk : k.Complete)
    (htaken : ∀ a b ra rb, k.Pair a b ra rb →
      ∃ name ∈ visitedNames ⟨a, b, ra⟩ rb, name ∈ k.tables.keys)
    {ds : List ManyToMany} (hds : ∀ d ∈ ds, d ∈ k.tables.manyToMany) :
    MadeOf globals k (ds.foldl (JoinedTables.add globals) j) [] := by
  induction ds generalizing j with
  | nil => exact h
  | cons d r ih =>
      have hd : d ∈ k.tables.manyToMany := hds d List.mem_cons_self
      have hnot : ∀ t, ¬ j.Free globals d t := by
        intro t ht
        obtain ⟨p, hnames⟩ := h.pair_of_free hk hd ht
        obtain ⟨name, hname, hmem⟩ := htaken _ _ _ _ p
        exact hnames name hname (h.eq_of_nothing_made.1 ▸ hmem)
      exact ih (h.of_unchanged (add_of_not_free hnot)) fun d' hd' =>
        hds d' (List.mem_cons_of_mem _ hd')

end MadeOf

end JoinedTables

/-! ## The resolved schema as a schema -/

namespace Schema

variable {s : Schema} {defaults : Settings} {names : NameSource}

/-- A joined table is settled, and its key columns are named in the index as it lists them. -/
theorem isSettled_joined {name : String} {t : Table}
    (ht : (s.joined defaults names).tables.get? name = some t) :
    t.IsSettled (s.globals defaults) ∧ ∃ columns,
      (s.joined defaults names).keys.get? name = some columns ∧ columns.keys = t.keyFields.keys := by
  obtain ⟨made, hmade⟩ := s.madeOf_joined defaults names
  rcases hmade.get?_tables_iff.1 ht with hkeyed | ⟨t', ht', rfl, rfl⟩
  · rw [get?_tables_keyed] at hkeyed
    obtain ⟨t₀, ht₀, rfl⟩ := Option.map_eq_some_iff.1 hkeyed
    exact ⟨t₀.isSettled_settled _, _, (joined_of_declared ht₀ defaults names).2, rfl⟩
  · obtain ⟨names', hcolumns⟩ := (hmade.joins t' ht').columns
    exact ⟨t'.columns.isSettled_table _, _, hmade.get?_keys_iff.2 (.inr ⟨t', ht', rfl, rfl⟩),
      JoinColumns.keys_fields_ofSides hcolumns _⟩

/-- A resolved table is a joined one with columns merged below its own. -/
theorem joined_of_resolve {name : String} {t : Table}
    (ht : (s.resolve defaults names).schema.tables.get? name = some t) :
    ∃ t', (s.joined defaults names).tables.get? name = some t' ∧
      t = { t' with
        fields := mergeColumns ((s.joined defaults names).keys.get? name)
          (s.foreignColumns defaults names name) t'.fields } := by
  rw [get?_tables_resolve] at ht
  obtain ⟨t', ht', heq⟩ := Option.map_eq_some_iff.1 ht
  exact ⟨t', ht', heq.symm⟩

theorem isSettled_resolve {name : String} {t : Table}
    (ht : (s.resolve defaults names).schema.tables.get? name = some t) :
    t.IsSettled (s.globals defaults) := by
  obtain ⟨t', ht', rfl⟩ := joined_of_resolve ht
  exact (isSettled_joined ht').1.merged _ _

theorem tables_keyed_resolve (s : Schema) (defaults : Settings) (names : NameSource) :
    ((s.resolve defaults names).schema.keyed defaults).tables =
      (s.resolve defaults names).schema.tables := by
  refine OrderedMap.ext_get? (KeyedTables.keys_tables_ofTables _ _) fun name => ?_
  rw [get?_tables_keyed]
  cases ht : (s.resolve defaults names).schema.tables.get? name with
  | none => rfl
  | some t => exact congrArg some (isSettled_resolve ht).settled_eq

theorem sameColumns_keyed_resolve (s : Schema) (defaults : Settings) (names : NameSource) :
    ((s.resolve defaults names).schema.keyed defaults).keys.SameColumns
      (s.joined defaults names).keys := by
  intro name
  rw [keyed, KeyedTables.get?_keys_ofTables]
  cases ht : (s.resolve defaults names).schema.tables.get? name with
  | some t =>
      have hsettled := (isSettled_resolve ht).settled_eq
      obtain ⟨t', ht', rfl⟩ := joined_of_resolve ht
      obtain ⟨columns, hcolumns, hkeys⟩ := (isSettled_joined ht').2
      rw [hcolumns, Option.map_some, Option.map_some, Option.map_some, Option.map_some, hkeys]
      refine congrArg some (Table.keys_keyFields_congr ?_)
      exact Table.settled_primaryKey _ _
  | none =>
      have hkeys : (s.joined defaults names).keys.get? name = none := by
        rw [OrderedMap.get?_eq_none_iff, ← primaryKeys_resolve, keyed_resolve,
          ← OrderedMap.get?_eq_none_iff]
        exact ht
      rw [hkeys]
      rfl

/-- Join tables declare nothing, so a declaration of the resolved schema was there first. -/
theorem declared_of_resolve {a b : String} {r : Relation}
    (h : ∃ t, (s.resolve defaults names).schema.tables.get? a = some t ∧
      t.manyToMany.get? b = some r) :
    ∃ t, (s.keyed defaults).tables.get? a = some t ∧ t.manyToMany.get? b = some r := by
  obtain ⟨t, ht, hr⟩ := h
  obtain ⟨t', ht', rfl⟩ := joined_of_resolve ht
  obtain ⟨made, hmade⟩ := s.madeOf_joined defaults names
  rcases hmade.get?_tables_iff.1 ht' with hkeyed | ⟨t'', -, -, rfl⟩
  · exact ⟨t', hkeyed, hr⟩
  · cases hr

theorem pair_of_resolve {a b : String} {ra rb : Relation}
    (p : ((s.resolve defaults names).schema.keyed defaults).Pair a b ra rb) :
    (s.keyed defaults).Pair a b ra rb := by
  obtain ⟨made, hmade⟩ := s.madeOf_joined defaults names
  have hkey : ∀ name ∈ (s.keyed defaults).tables.keys,
      ((s.resolve defaults names).schema.keyed defaults).keys.HasKey name →
        (s.keyed defaults).keys.HasKey name := by
    intro name hname hkey
    obtain ⟨columns, hcolumns, hne⟩ := (s.sameColumns_keyed_resolve defaults names).hasKey hkey
    rw [hmade.get?_keys_of_keyed (KeyedTables.complete_ofTables _ _) hname] at hcolumns
    exact ⟨columns, hcolumns, hne⟩
  have hdeclared := p.declared
  have hreciprocal := p.reciprocal
  rw [tables_keyed_resolve] at hdeclared hreciprocal
  obtain ⟨ta, hta, hra⟩ := declared_of_resolve hdeclared
  obtain ⟨tb, htb, hrb⟩ := declared_of_resolve hreciprocal
  exact ⟨⟨ta, hta, hra⟩, ⟨tb, htb, hrb⟩, hkey a (OrderedMap.mem_keys_of_get? hta) p.key,
    hkey b (OrderedMap.mem_keys_of_get? htb) p.otherKey⟩

/-- Joining a resolved schema adds nothing. -/
theorem joined_resolve (s : Schema) (defaults : Settings) (names names' : NameSource) :
    ((s.resolve defaults names).schema.joined defaults names').tables =
        (s.resolve defaults names).schema.tables ∧
      ((s.resolve defaults names).schema.joined defaults names').keys =
        ((s.resolve defaults names).schema.keyed defaults).keys := by
  have htables := s.tables_keyed_resolve defaults names
  have htaken : ∀ a b ra rb,
      ((s.resolve defaults names).schema.keyed defaults).Pair a b ra rb →
        ∃ name ∈ visitedNames ⟨a, b, ra⟩ rb,
          name ∈ ((s.resolve defaults names).schema.keyed defaults).tables.keys := by
    intro a b ra rb p
    rw [htables, keys_tables_resolve]
    exact (JoinedTables.MadeOf.start _ _ names).exists_taken_foldl
      (KeyedTables.complete_ofTables _ _) (pair_of_resolve p) (fun _ hd => hd)
      (Tables.mem_manyToMany.2 (pair_of_resolve p).declared)
  have hnothing := (JoinedTables.MadeOf.start ((s.resolve defaults names).schema.globals defaults)
    ((s.resolve defaults names).schema.keyed defaults) names').foldl_of_taken
      (KeyedTables.complete_ofTables _ _) htaken fun _ hd => hd
  exact ⟨hnothing.eq_of_nothing_made.1.trans htables, hnothing.eq_of_nothing_made.2⟩

theorem foreignKeys_resolve (s : Schema) (defaults : Settings) (names : NameSource)
    (name : String) :
    (s.resolve defaults names).schema.tables.foreignKeys name = s.tables.foreignKeys name := by
  rw [← s.foreignKeys_joined defaults names name]
  cases ht : (s.joined defaults names).tables.get? name with
  | none =>
      rw [Tables.foreignKeys, Tables.foreignKeys, get?_tables_resolve, ht]
      rfl
  | some t =>
      have ht' := s.get?_tables_resolve defaults names name
      rw [ht, Option.map_some] at ht'
      refine Tables.foreignKeys_congr ht ht' rfl rfl fun other => ?_
      rw [Tables.converse?, Tables.converse?, get?_tables_resolve]
      cases (s.joined defaults names).tables.get? other with
      | none => rfl
      | some t' => rfl

theorem keys_foreignColumns_resolve (s : Schema) (defaults : Settings) (names names' : NameSource)
    (name : String) :
    ((s.resolve defaults names).schema.foreignColumns defaults names' name).keys =
      (s.foreignColumns defaults names name).keys := by
  rw [foreignColumns, foreignColumns, foreignKeys_resolve, (s.joined_resolve defaults names names').2]
  exact OrderedMap.keys_insertAll_congr rfl
    ((s.sameColumns_keyed_resolve defaults names).map_fst_foreignColumns _)

/-- Resolving a resolved schema leaves its tables as they are, whatever names are drawn. -/
theorem resolve_resolve_tables (s : Schema) (defaults : Settings) (names names' : NameSource) :
    ((s.resolve defaults names).schema.resolve defaults names').schema.tables =
      (s.resolve defaults names).schema.tables := by
  obtain ⟨htables, hkeys⟩ := s.joined_resolve defaults names names'
  refine OrderedMap.ext_get? ?_ fun name => ?_
  · rw [keys_tables_resolve, htables]
  · rw [get?_tables_resolve, htables, hkeys]
    cases ht : (s.resolve defaults names).schema.tables.get? name with
    | none => rfl
    | some t =>
        obtain ⟨t', ht', rfl⟩ := joined_of_resolve ht
        have hcolumns := s.sameColumns_keyed_resolve defaults names name
        obtain ⟨columns, hindex, -⟩ := (isSettled_joined ht').2
        rw [hindex, Option.map_some] at hcolumns
        obtain ⟨columns', hindex', hnames⟩ := Option.map_eq_some_iff.1 hcolumns
        rw [Option.map_some, hindex, hindex']
        have hmerge : mergeColumns (some columns')
            ((s.resolve defaults names).schema.foreignColumns defaults names' name)
            (mergeColumns (some columns) (s.foreignColumns defaults names name) t'.fields) =
              mergeColumns (some columns) (s.foreignColumns defaults names name) t'.fields :=
          mergeColumns_mergeColumns hnames (s.keys_foreignColumns_resolve defaults names names' name)
        rw [hmerge]

/-- Resolving leaves every table in the key index, also one without a key. -/
theorem isCompiled_resolve (h : s.tables.isEmpty = false) (defaults : Settings)
    (names : NameSource) :
    (s.resolve defaults names).schema.isCompiled = true := by
  obtain ⟨name, t, ht⟩ := OrderedMap.isEmpty_eq_false_iff.1 h
  have hkeys := (joined_of_declared ht defaults names).2
  rw [isCompiled, primaryKeys_resolve, OrderedMap.isEmpty_eq_false_iff.2 ⟨name, _, hkeys⟩]
  rfl

theorem isEmpty_tables_resolve (h : s.tables.isEmpty = false) (defaults : Settings)
    (names : NameSource) :
    (s.resolve defaults names).schema.tables.isEmpty = false := by
  obtain ⟨name, t, ht⟩ := OrderedMap.isEmpty_eq_false_iff.1 h
  obtain ⟨t', ht', -⟩ := resolve_table_of_joined (joined_of_declared ht defaults names).1
  exact OrderedMap.isEmpty_eq_false_iff.2 ⟨name, t', ht'⟩

end Schema

/-! ## Compiling again -/

namespace Compiler

/-- A compiled schema is rendered and nothing else. -/
theorem compile_of_compiled (c : Compiler) {s : Schema} (htables : s.tables.isEmpty = false)
    (hcompiled : s.isCompiled = true) :
    ∃ r, c.compile s = .ok r ∧ r.schema = s ∧ r.script = c.render s ∧ r.compiler = c := by
  rw [compile, htables, hcompiled]
  exact ⟨_, rfl, rfl, rfl, rfl⟩

/-- What comes out of a compilation is compiled, and the script is its rendering. -/
theorem compile_ok (c : Compiler) {s : Schema} (htables : s.tables.isEmpty = false) :
    ∃ r, c.compile s = .ok r ∧ r.schema.isCompiled = true ∧ r.schema.tables.isEmpty = false ∧
      r.script = r.compiler.render r.schema ∧ r.compiler = { c with names := r.compiler.names } := by
  cases hraw : s.isCompiled with
  | true =>
      obtain ⟨r, hr, hschema, hscript, hcompiler⟩ := c.compile_of_compiled htables hraw
      rw [← hschema] at hraw htables hscript
      exact ⟨r, hr, hraw, htables, by rw [hcompiler, hscript], by rw [hcompiler]⟩
  | false =>
      have hcompiled := Schema.isCompiled_resolve htables c.defaults c.names
      have htables' := Schema.isEmpty_tables_resolve htables c.defaults c.names
      rw [compile, htables, hraw]
      exact ⟨_, rfl, hcompiled, htables', rfl, rfl⟩

end Compiler

/-- Compiling what a compilation returned gives the same schema and the same statements and draws
no name; under another prefix it still gives the same schema. -/
theorem compile_compile (c : Compiler) (s : Schema) (htables : s.tables.isEmpty = false) :
    ∃ r, c.compile s = .ok r ∧
      r.compiler = { c with names := r.compiler.names } ∧
      (∃ r', r.compiler.compile r.schema = .ok r' ∧ r'.schema = r.schema ∧
        r'.statements = r.statements ∧ r'.compiler = r.compiler) ∧
      ∀ tablePrefix, ∃ r', (r.compiler.withPrefix tablePrefix).compile r.schema = .ok r' ∧
        r'.schema = r.schema ∧ r'.compiler = r.compiler.withPrefix tablePrefix := by
  obtain ⟨r, hr, hcompiled, htables', hscript, hcompiler⟩ := c.compile_ok htables
  refine ⟨r, hr, hcompiler, ?_, fun tablePrefix => ?_⟩
  · obtain ⟨r', hr', hschema', hscript', hcompiler'⟩ :=
      r.compiler.compile_of_compiled htables' hcompiled
    refine ⟨r', hr', hschema', ?_, hcompiler'⟩
    rw [Compilation.statements, Compilation.statements, hscript', hscript]
  · obtain ⟨r', hr', hschema', -, hcompiler'⟩ :=
      (r.compiler.withPrefix tablePrefix).compile_of_compiled htables' hcompiled
    exact ⟨r', hr', hschema', hcompiler'⟩

/-- A log that asks for no key, whose lines refer to it in vain. -/
def keyless : Schema :=
  ({} : Schema)
    |>.addTable "log" ({ options := { primaryKey := some [] } : Table }.hasMany "line" {})
    |>.addTable "line" (({} : Table).belongsTo "log")

/-- It is compiled without a constraint, and from there on it is the same schema. -/
theorem compile_compile_keyless :
    keyless.tables.isEmpty = false ∧ keyless.isCompiled = false ∧
      ∃ r, ({ names := .counting } : Compiler).compile keyless = .ok r ∧
        r.schema.isCompiled = true ∧ r.schema.keyColumns "log" = [] ∧
        r.schema.keyColumns "line" = ["id"] ∧ r.schema.options.constraints = {} ∧
        r.compiler.names.drawn = 0 ∧
        ∃ r', r.compiler.compile r.schema = .ok r' ∧ r'.schema = r.schema ∧
          r'.statements = r.statements ∧ r'.statements.length = 12 ∧
          r'.compiler.names.drawn = 0 := by
  obtain ⟨r, hr, -, ⟨r', hr', hschema, hstatements, hcompiler⟩, -⟩ :=
    compile_compile { names := .counting } keyless (by decide)
  have hfirst : r.schema.isCompiled = true ∧ r.schema.keyColumns "log" = [] ∧
      r.schema.keyColumns "line" = ["id"] ∧ r.schema.options.constraints = {} ∧
      r.compiler.names.drawn = 0 := by
    obtain rfl := Except.ok.inj hr
    decide
  have hlength : r.statements.length = 12 := by
    obtain rfl := Except.ok.inj hr
    rw [Compilation.statements, List.length_map]
    decide
  obtain ⟨hcompiled, hlog, hline, hnone, hdrawn⟩ := hfirst
  refine ⟨by decide, by decide, r, hr, hcompiled, hlog, hline, hnone, hdrawn, r', hr', hschema,
    hstatements, ?_, ?_⟩
  · rw [hstatements, hlength]
  · rw [hcompiler, hdrawn]

end SchemaDdl
