import SchemaDdl.Proofs.CompiledNames
import SchemaDdl.Schema.Format
import SchemaDdl.Schema.Writing

/-!
# Reserved keys as names

In the map that a schema is written as, the pair `_options` is no table, and in
a table five keys name no field. The reader takes these pairs out before it
reads the others, so a schema that was read has no table and no field under
them. A compiled schema may have. The names that a compilation makes up are
harmless: what is made of two names has `_to_` in it, what is made of one ends
in `_id`, and no reserved key does either. What lets a reserved key in is a name
that the user gives somewhere else than in the map, where the reader does not
look: in a list of key columns any of the five, and in a relation, whose names
are at least identifiers, `options` for a column and `_options` for a join table.

`compile_unreserved_iff` says that these are all the ways.
-/

namespace SchemaDdl

/-! ## What the reader takes out -/

theorem eq_ok_of_toOption {ε α : Type} {x : Except ε α} {a : α} (h : x.toOption = some a) :
    x = .ok a := by
  cases x with
  | error e => cases h
  | ok b => exact congrArg Except.ok (Option.some.inj h)

/-- Pairs whose values are read one by one keep their keys. -/
theorem pairs_of_mapM {ε α β : Type} {f : α → Except ε β} {ps : List (String × α)}
    {l : List (String × β)} (h : (ps.mapM fun p => do return (p.1, ← f p.2)) = .ok l) :
    l.map Prod.fst = ps.map Prod.fst ∧ ∀ e ∈ l, ∃ x, f x = .ok e.2 := by
  induction ps generalizing l with
  | nil =>
      rw [← Except.ok.inj h]
      exact ⟨rfl, fun e he => by cases he⟩
  | cons p r ih =>
      simp only [List.mapM_cons, bind_eq_ok] at h
      obtain ⟨e, ⟨a, ha, he⟩, es, hes, h⟩ := h
      obtain ⟨hkeys, hvalues⟩ := ih hes
      rw [← Except.ok.inj h, ← Except.ok.inj he, List.map_cons, List.map_cons, hkeys]
      exact ⟨rfl, List.forall_mem_cons.2 ⟨⟨p.2, ha⟩, hvalues⟩⟩

theorem Table.notMem_reservedKeys_of_read {n : Node} {t : Table} (h : Table.read n = .ok t)
    {column : String} (hcolumn : column ∈ t.fields.keys) : column ∉ reservedKeys := by
  simp only [Table.read, bind_eq_ok] at h
  obtain ⟨es, -, -, -, options, -, -, -, manyToOne, -, -, -, oneToMany, -, -, -, oneToOne, -, -, -,
    manyToMany, -, fields, hfields, h⟩ := h
  rw [← Except.ok.inj h, OrderedMap.mem_keys_ofList, (pairs_of_mapM hfields).1,
    List.mem_map] at hcolumn
  obtain ⟨e, he, rfl⟩ := hcolumn
  simpa using (List.mem_filter.1 he).2

namespace Schema

/-- No table and no column is called as a reserved key. -/
structure Unreserved (s : Schema) : Prop where
  names : optionsKey ∉ s.tables.keys
  columns : ∀ name t, s.tables.get? name = some t →
    ∀ column ∈ t.fields.keys, column ∉ Table.reservedKeys

theorem unreserved_of_read {τ : Type} [Source τ] {t : τ} {s : Schema} (h : Schema.read t = .ok s) :
    s.Unreserved := by
  simp only [Schema.read, bind_eq_ok] at h
  obtain ⟨es, -, -, -, options, -, tables, htables, h⟩ := h
  simp only [← bind_assoc] at htables
  obtain ⟨hkeys, hvalues⟩ := pairs_of_mapM (f := fun t => Source.node t >>= Table.read) htables
  rw [← Except.ok.inj h]
  constructor
  · show optionsKey ∉ (OrderedMap.ofList tables).keys
    rw [OrderedMap.mem_keys_ofList, hkeys, List.mem_map]
    rintro ⟨e, he, hname⟩
    simpa [hname] using (List.mem_filter.1 he).2
  · intro name table htable column hcolumn
    rw [OrderedMap.get?_ofList] at htable
    obtain ⟨x, hx⟩ := hvalues _ (List.mem_reverse.1 (mem_of_lookup htable))
    obtain ⟨n, -, hn⟩ := bind_eq_ok.1 hx
    exact Table.notMem_reservedKeys_of_read hn hcolumn

theorem unreserved_of_ofText {format : SchemaFormat} {content : String} {s : Schema}
    (h : ofText format content = .ok s) : s.Unreserved := by
  cases format with
  | yaml =>
      obtain ⟨t, -, ht⟩ := bind_eq_ok.1 h
      exact unreserved_of_read ht
  | json =>
      obtain ⟨n, -, hn⟩ := bind_eq_ok.1 h
      exact unreserved_of_read hn

theorem Unreserved.validate {s s' : Schema} (h : s.Unreserved) (hvalid : s.validate = .ok s') :
    s'.Unreserved := by
  constructor
  · intro hname
    obtain ⟨t, ht⟩ := OrderedMap.mem_keys_iff.1 hname
    obtain ⟨-, t', ht', -⟩ := (get?_tables_validate hvalid).1 ht
    exact h.names (OrderedMap.mem_keys_of_get? ht')
  · intro name t ht column hcolumn
    obtain ⟨-, t', ht', rfl⟩ := (get?_tables_validate hvalid).1 ht
    obtain ⟨field, hfield⟩ := OrderedMap.mem_keys_iff.1 hcolumn
    exact h.columns name t' ht' column
      (OrderedMap.mem_keys_of_get? (OrderedMap.get?_filter_iff.1 hfield).1)

end Schema

/-! ## Names that are made up -/

theorem Naming.joinTable_ne_optionsKey (table other : String) :
    Naming.joinTable table other ≠ Schema.optionsKey := by
  intro h
  have hinfix : "_to_".toList <:+: (Naming.joinTable table other).toList :=
    ⟨table.toList, other.toList, by simp [Naming.joinTable]⟩
  have hnot : ¬ "_to_".toList <:+: Schema.optionsKey.toList := by decide +kernel
  exact hnot (h ▸ hinfix)

/-- A foreign key column is called as a reserved key only if its relation calls it so. -/
theorem Relation.resolve_column_eq_iff {r : Relation} {other column : String}
    (hcolumn : column ∈ Table.reservedKeys) :
    (r.resolve other).column = column ↔ r.column = some column := by
  have hsuffix : ∀ column ∈ Table.reservedKeys, ¬ "_id".toList <:+ column.toList := by decide
  rw [resolve]
  cases r.column with
  | some given => simp
  | none =>
      refine iff_of_false (fun h => hsuffix column hcolumn ?_) (by simp)
      rw [← h, Option.getD_none, String.toList_append]
      exact List.suffix_append _ _

/-- Of the keys reserved in a table only one is an identifier. -/
theorem Identifier.eq_options_of_isValid {column : String} (hcolumn : column ∈ Table.reservedKeys)
    (hvalid : isValid column = true) : column = "options" := by
  have hall : ∀ column ∈ Table.reservedKeys, isValid column = true → column = "options" := by decide
  exact hall column hcolumn hvalid

theorem Table.stampedAt_of_mem_reservedKeys {globals : Settings} {t : Table} {column : String}
    (hcolumn : column ∈ reservedKeys) : t.stampedAt globals column = false := by
  have hall : ∀ column ∈ reservedKeys, column ∉ timestampColumns := by decide
  rw [stampedAt, decide_eq_false (hall column hcolumn), Bool.and_false]

theorem Table.mem_getD_primaryKey_iff {t : Table} {column : String}
    (hcolumn : column ∈ reservedKeys) :
    column ∈ t.options.primaryKey.getD [standardKeyColumn] ↔
      column ∈ t.options.primaryKey.getD [] := by
  have hstandard : standardKeyColumn ∉ reservedKeys := by decide
  cases t.options.primaryKey with
  | some columns => exact Iff.rfl
  | none =>
      refine iff_of_false (fun h => hstandard ?_) (by simp)
      rw [← List.mem_singleton.1 h]
      exact hcolumn

/-! ## Reserved columns and tables of a compiled schema -/

namespace Schema

variable {s : Schema} {defaults : Settings} {names : NameSource} {name column : String}

theorem mem_reserved_of_declared (hs : s.Unreserved) (hcolumn : column ∈ Table.reservedKeys)
    {t t' : Table} (ht : s.tables.get? name = some t)
    (ht' : (s.resolve defaults names).schema.tables.get? name = some t') :
    column ∈ t'.fields.keys ↔
      column ∈ t.options.primaryKey.getD [] ∨
        ∃ other r, s.tables.RefersTo name other r ∧
          (s.resolve defaults names).schema.options.primaryKeys.HasKey other ∧
          r.column = some column := by
  have hown : ¬ (column ∈ t.fields.keys ∨ t.stampedAt (s.globals defaults) column = true) := by
    rw [Table.stampedAt_of_mem_reservedKeys hcolumn]
    exact fun h => h.elim (fun hmem => hs.columns name t ht column hmem hcolumn) (by simp)
  rw [mem_columns_of_declared ht ht', or_iff_left hown, Table.mem_getD_primaryKey_iff hcolumn]
  simp only [Relation.resolve_column_eq_iff hcolumn]

theorem mem_reserved_of_made {made : List JoinTable}
    (hmade : (s.joined defaults names).MadeOf (s.globals defaults) (s.keyed defaults) made)
    (hcolumn : column ∈ Table.reservedKeys) {t : JoinTable} (ht : t ∈ made) {t' : Table}
    (ht' : (s.resolve defaults names).schema.tables.get? t.name = some t') :
    column ∈ t'.fields.keys ↔
      t.declaration.relation.column = some column ∨ t.reciprocal.column = some column := by
  rw [mem_columns_of_made hmade ht ht']
  simp [JoinTable.sides, Relation.resolve_column_eq_iff hcolumn]

/-- No reserved key is given as a name where the reader does not look. A table refers only to those
that have a key in `keys`, and `made` are the join tables, each with its two tables. -/
structure AvoidsReserved (s : Schema) (keys : KeyIndex) (made : List (String × String × String)) :
    Prop where
  keyColumns : ∀ name t, s.tables.get? name = some t →
    ∀ column ∈ t.options.primaryKey.getD [], column ∉ Table.reservedKeys
  foreignColumns : ∀ table other r, s.tables.RefersTo table other r → keys.HasKey other →
    r.column ≠ some "options"
  joinColumns : ∀ name a b ra rb, (name, a, b) ∈ made →
    s.tables.JoinsTo a b ra → s.tables.JoinsTo b a rb →
    ra.column ≠ some "options" ∧ rb.column ≠ some "options"
  joinTables : ∀ a b ra rb, s.tables.JoinsTo a b ra → s.tables.JoinsTo b a rb →
    ra.joinTable = some optionsKey ∨ rb.joinTable = some optionsKey → (optionsKey, a, b) ∉ made

theorem optionsKey_notMem_iff (hs : s.Unreserved) {made : List JoinTable}
    (hmade : (s.joined defaults names).MadeOf (s.globals defaults) (s.keyed defaults) made) :
    optionsKey ∉ (s.resolve defaults names).schema.tables.keys ↔
      ∀ a b ra rb, s.tables.JoinsTo a b ra → s.tables.JoinsTo b a rb →
        ra.joinTable = some optionsKey ∨ rb.joinTable = some optionsKey →
          (optionsKey, a, b) ∉ (s.joined defaults names).reports := by
  rw [mem_keys_tables_resolve_iff hmade, or_iff_right hs.names]
  constructor
  · intro hnone a b ra rb _ _ _ hreport
    obtain ⟨t, ht, heq⟩ := hmade.mem_reports_iff.1 hreport
    exact hnone ⟨t, ht, congrArg Prod.fst heq⟩
  · rintro hgiven ⟨t, ht, hname⟩
    have hjoins := hmade.joins t ht
    refine hgiven _ _ _ _ hjoins.joins_declaration hjoins.joins_reciprocal ?_
      (hmade.mem_reports_iff.2 ⟨t, ht, hname ▸ rfl⟩)
    rw [← hname]
    exact t.name_cases.resolve_left fun h => Naming.joinTable_ne_optionsKey _ _ (h ▸ hname)

theorem AvoidsReserved.of_unreserved (hs : s.Unreserved) {made : List JoinTable}
    (hmade : (s.joined defaults names).MadeOf (s.globals defaults) (s.keyed defaults) made)
    (h : (s.resolve defaults names).schema.Unreserved) :
    s.AvoidsReserved (s.resolve defaults names).schema.options.primaryKeys
      (s.joined defaults names).reports := by
  have hresolved : ∀ {name}, name ∈ (s.resolve defaults names).schema.tables.keys →
      ∃ t', (s.resolve defaults names).schema.tables.get? name = some t' :=
    fun hname => OrderedMap.mem_keys_iff.1 hname
  have hoptions : "options" ∈ Table.reservedKeys := by decide
  refine ⟨?_, ?_, ?_, (optionsKey_notMem_iff hs hmade).1 h.names⟩
  · intro name t ht column hcolumn hreserved
    obtain ⟨t', ht'⟩ := hresolved
      ((mem_keys_tables_resolve_iff hmade).2 (.inl (OrderedMap.mem_keys_of_get? ht)))
    exact h.columns name t' ht' column
      ((mem_reserved_of_declared hs hreserved ht ht').2 (.inl hcolumn)) hreserved
  · intro table other r hr hkey hcolumn
    obtain ⟨t, ht, -⟩ := id hr
    obtain ⟨t', ht'⟩ := hresolved
      ((mem_keys_tables_resolve_iff hmade).2 (.inl (OrderedMap.mem_keys_of_get? ht)))
    exact h.columns table t' ht' "options"
      ((mem_reserved_of_declared hs hoptions ht ht').2 (.inr ⟨other, r, hr, hkey, hcolumn⟩)) hoptions
  · intro name a b ra rb hmem ha hb
    obtain ⟨columns, ht, rfl⟩ := hmade.made_of_report hmem ha hb
    obtain ⟨t', ht'⟩ := hresolved ((mem_keys_tables_resolve_iff hmade).2 (.inr ⟨_, ht, rfl⟩))
    have hnone : "options" ∉ t'.fields.keys :=
      fun hmem => h.columns _ t' ht' "options" hmem hoptions
    rw [mem_reserved_of_made hmade hoptions ht ht', not_or] at hnone
    exact hnone

theorem Unreserved.of_avoidsReserved (hs : s.Unreserved) (hnamed : s.WellNamed)
    {made : List JoinTable}
    (hmade : (s.joined defaults names).MadeOf (s.globals defaults) (s.keyed defaults) made)
    (h : s.AvoidsReserved (s.resolve defaults names).schema.options.primaryKeys
      (s.joined defaults names).reports) :
    (s.resolve defaults names).schema.Unreserved := by
  refine ⟨(optionsKey_notMem_iff hs hmade).2 h.joinTables, ?_⟩
  intro name t' ht' column hcolumn hreserved
  -- A relation is well named, so of the reserved keys it can only give its column `options`.
  have hoptions : ∀ {r : Relation}, r.WellNamed → r.column = some column → column = "options" :=
    fun hr hr' => Identifier.eq_options_of_isValid hreserved (hr.column column hr')
  rcases (mem_keys_tables_resolve_iff hmade).1 (OrderedMap.mem_keys_of_get? ht') with
    hname | ⟨t, ht, rfl⟩
  · obtain ⟨t, ht⟩ := OrderedMap.mem_keys_iff.1 hname
    rcases (mem_reserved_of_declared hs hreserved ht ht').1 hcolumn with
      hkey | ⟨other, r, hr, hkey, hr'⟩
    · exact h.keyColumns name t ht column hkey hreserved
    · obtain rfl := hoptions (hnamed.refers hr) hr'
      exact h.foreignColumns name other r hr hkey hr'
  · have hjoins := hmade.joins t ht
    have hnone := h.joinColumns t.name _ _ _ _ (hmade.mem_reports_iff.2 ⟨t, ht, rfl⟩)
      hjoins.joins_declaration hjoins.joins_reciprocal
    rcases (mem_reserved_of_made hmade hreserved ht ht').1 hcolumn with hr | hr
    · obtain rfl := hoptions (hnamed.joins hjoins.joins_declaration) hr
      exact hnone.1 hr
    · obtain rfl := hoptions (hnamed.joins hjoins.joins_reciprocal) hr
      exact hnone.2 hr

end Schema

/-- A definition that is read and validated compiles to a schema without reserved names exactly if
no list of key columns has one, no relation that becomes a column calls it `options`, and no join
table is made from a pair of which a side calls it `_options`. -/
theorem compile_unreserved_iff (c : Compiler) {format : SchemaFormat} {content : String}
    {s s' : Schema} (hread : Schema.ofText format content = .ok s) (hvalid : s.validate = .ok s')
    (htables : s'.tables.isEmpty = false) (hraw : s'.isCompiled = false) :
    ∃ r, c.compile s' = .ok r ∧
      (r.schema.Unreserved ↔ s'.AvoidsReserved r.schema.options.primaryKeys r.joinTables) := by
  obtain ⟨r, hr, hschema, hnotes⟩ := c.compile_of_uncompiled htables hraw
  obtain ⟨made, hmade⟩ := s'.madeOf_joined c.defaults c.names
  have hs := (Schema.unreserved_of_ofText hread).validate hvalid
  refine ⟨r, hr, ?_⟩
  rw [Compilation.joinTables_eq_reports hnotes, hschema]
  exact ⟨.of_unreserved hs hmade, .of_avoidsReserved hs (Schema.wellNamed_of_validate hvalid) hmade⟩

/-- Two tables that are joined, the join table and one of its columns with names of their own. -/
def library : Schema :=
  ({} : Schema)
    |>.addTable "author" (({} : Table).hasManyToMany "book"
      { column := some "written_by", joinTable := some "works" })
    |>.addTable "book" (({} : Table).hasManyToMany "author" {})

def libraryText : String :=
  "\x7b\"author\":\x7b\"m:m\":\x7b\"book\":\x7b\"name\":\"written_by\",\"table\":\"works\"\x7d\x7d\x7d," ++
    "\"book\":\x7b\"m:m\":\x7b\"author\":\x7b\x7d\x7d\x7d\x7d"

/-- No name is reserved in the compiled schema, so the definition avoids them all. -/
theorem compile_library_unreserved_iff :
    Schema.ofText .json libraryText = .ok library ∧ library.validate = .ok library ∧
      library.tables.isEmpty = false ∧ library.isCompiled = false ∧
      ∃ r, ({ names := .counting } : Compiler).compile library = .ok r ∧
        r.schema.tables.keys = ["author", "book", "works"] ∧
        r.joinTables = [("works", "author", "book")] ∧ r.schema.Unreserved ∧
        library.AvoidsReserved r.schema.options.primaryKeys r.joinTables := by
  have hread : Schema.ofText .json libraryText = .ok library :=
    eq_ok_of_toOption (by decide +kernel)
  have hvalid : library.validate = .ok library := rfl
  obtain ⟨r, hr, hiff⟩ :=
    compile_unreserved_iff { names := .counting } hread hvalid (by decide) (by decide)
  have hkeys : r.schema.tables.keys = ["author", "book", "works"] ∧
      r.joinTables = [("works", "author", "book")] := by
    obtain rfl := Except.ok.inj hr
    exact ⟨by decide, by decide⟩
  have hcolumns : ∀ e ∈ r.schema.tables.entries, ∀ column ∈ e.2.fields.keys,
      column ∉ Table.reservedKeys := by
    obtain rfl := Except.ok.inj hr
    decide
  have hunreserved : r.schema.Unreserved := by
    refine ⟨?_, fun name t ht => hcolumns (name, t) (OrderedMap.mem_entries_iff.2 ht)⟩
    rw [hkeys.1]
    decide
  exact ⟨hread, hvalid, by decide, by decide, r, hr, hkeys.1, hkeys.2, hunreserved,
    hiff.1 hunreserved⟩

/-- A key column, a foreign key column and a join table, each under a reserved key. -/
def smuggled : Schema :=
  ({} : Schema)
    |>.addTable "a" ((({ options := { primaryKey := some ["m:1"] } } : Table).hasOne "b"
      { column := some "options" }).hasManyToMany "b" { joinTable := some "_options" })
    |>.addTable "b" (({} : Table).hasManyToMany "a" {})

def smuggledText : String :=
  "\x7b\"a\":\x7b\"options\":\x7b\"pk\":[\"m:1\"]\x7d,\"1:1\":\x7b\"b\":\x7b\"name\":\"options\"\x7d\x7d," ++
    "\"m:m\":\x7b\"b\":\x7b\"table\":\"_options\"\x7d\x7d\x7d,\"b\":\x7b\"m:m\":\x7b\"a\":\x7b\x7d\x7d\x7d\x7d"

/-- What is written for the compiled schema cannot be read again. -/
theorem compile_smuggled_reserved :
    Schema.ofText .json smuggledText = .ok smuggled ∧ smuggled.validate = .ok smuggled ∧
      smuggled.isCompiled = false ∧
      ∃ r, ({ names := .counting } : Compiler).compile smuggled = .ok r ∧
        Schema.optionsKey ∈ r.schema.tables.keys ∧
        (∃ t, r.schema.tables.get? "a" = some t ∧ "m:1" ∈ t.fields.keys ∧
          "options" ∈ t.fields.keys) ∧
        (Schema.read r.schema.toNode).toOption = none :=
  ⟨eq_ok_of_toOption (by decide +kernel), rfl, by decide, _, rfl, by decide,
    ⟨_, rfl, by decide, by decide⟩, by decide +kernel⟩

end SchemaDdl
