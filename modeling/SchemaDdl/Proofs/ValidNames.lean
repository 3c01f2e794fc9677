import SchemaDdl.Proofs.CompiledNames

/-!
# Which compiled names are identifiers

Validation drops tables, fields and relations that are named badly, before
anything is compiled. What it leaves gives valid names to all declared tables
and fields and to all foreign keys and join tables that are named by a
relation. Two sources of names escape it. A list of key columns may name what no
field is called, and nothing looks at these names. And a name that is made up
is longer than what it is made of: it is spelled well, because it begins with
the name of a table and goes on with letters and underscores, but it may be too
long.

`compile_namedValidly_iff` says that these are the only ways to a name that is
no identifier, and how long the names of tables may be.
-/

namespace SchemaDdl

/-! ## Names made of names -/

namespace Identifier

theorem isWord_append {x y : List Char} (hx : isWord x = true) (hy : ∀ c ∈ y, isTail c = true) :
    isWord (x ++ y) = true := by
  cases x with
  | nil => cases hx
  | cons c r =>
      rw [isWord, Bool.and_eq_true] at hx
      rw [List.cons_append, isWord, List.all_append, Bool.and_eq_true, Bool.and_eq_true]
      exact ⟨hx.1, hx.2, List.all_eq_true.2 hy⟩

/-- What begins with an identifier is one if it is spelled as one and short enough. -/
theorem isValid_append_iff {x y : String} (hx : isValid x = true) (hy : IsSpelled y) :
    isValid (x ++ y) = true ↔ x.utf8ByteSize + y.utf8ByteSize ≤ maxBytes := by
  rw [isValid, Bool.and_eq_true] at hx
  rw [isValid, Bool.and_eq_true, decide_eq_true_eq, String.utf8ByteSize_append,
    String.toList_append]
  exact and_iff_left (isWord_append hx.2 hy)

theorem ne_empty_of_isValid {name : String} (h : isValid name = true) : name ≠ "" := by
  rintro rfl
  exact absurd h (by decide)

end Identifier

/-- The longest name of a table after which a column can be named. -/
def maxReferenced : Nat := Identifier.maxBytes - "_id".utf8ByteSize

/-- How long the names of two tables may be together for a join table to be named after them. -/
def maxJoined : Nat := Identifier.maxBytes - "_to_".utf8ByteSize

theorem Relation.isValid_column_iff {r : Relation} (hr : r.WellNamed) {table : String}
    (htable : Identifier.isValid table = true) :
    Identifier.isValid (r.resolve table).column = true ↔
      (r.column = none → table.utf8ByteSize ≤ maxReferenced) := by
  rw [resolve]
  cases hcolumn : r.column with
  | some given => simp [hr.column given hcolumn]
  | none =>
      have hspelled : Identifier.IsSpelled "_id" := by decide
      have hsizes : "_id".utf8ByteSize = 3 ∧ Identifier.maxBytes = 64 := by decide
      rw [Option.getD_none, Identifier.isValid_append_iff htable hspelled, maxReferenced]
      simp only [forall_const]
      omega

theorem Relation.WellNamed.givenJoinTable_eq {r : Relation} (hr : r.WellNamed) :
    r.givenJoinTable = r.joinTable := by
  rw [givenJoinTable]
  cases hgiven : r.joinTable with
  | none => rfl
  | some given =>
      have hne := Identifier.ne_empty_of_isValid (hr.joinTable given hgiven)
      simp [hne]

theorem JoinTable.isValid_name_iff {t : JoinTable} (hdeclared : t.declaration.relation.WellNamed)
    (hreciprocal : t.reciprocal.WellNamed)
    (htable : Identifier.isValid t.declaration.table = true)
    (hother : Identifier.isValid t.declaration.other = true) :
    Identifier.isValid t.name = true ↔
      (t.declaration.relation.joinTable = none → t.reciprocal.joinTable = none →
        t.declaration.table.utf8ByteSize + t.declaration.other.utf8ByteSize ≤ maxJoined) := by
  rw [name, joinTableName, hdeclared.givenJoinTable_eq, hreciprocal.givenJoinTable_eq]
  cases hfirst : t.declaration.relation.joinTable with
  | some given => simp [hdeclared.joinTable given hfirst]
  | none =>
      cases hsecond : t.reciprocal.joinTable with
      | some given => simp [hreciprocal.joinTable given hsecond]
      | none =>
          have hspelled : Identifier.IsSpelled ("_to_" ++ t.declaration.other) :=
            Identifier.IsSpelled.append (by decide) (Identifier.isSpelled_of_isValid hother)
          have hsizes : "_to_".utf8ByteSize = 4 ∧ Identifier.maxBytes = 64 := by decide
          have hname : ((none : Option String) <|> none).getD
              (Naming.joinTable t.declaration.table t.declaration.other) =
                t.declaration.table ++ ("_to_" ++ t.declaration.other) := String.append_assoc
          rw [hname, Identifier.isValid_append_iff htable hspelled, String.utf8ByteSize_append,
            maxJoined]
          simp only [forall_const]
          omega

/-! ## The names of a compiled schema -/

namespace Schema

variable {s : Schema} {defaults : Settings} {names : NameSource}

/-- All names of tables, columns and key columns are identifiers. -/
structure NamedValidly (s : Schema) : Prop where
  tables : ∀ name ∈ s.tables.keys, Identifier.check name = .ok ()
  columns : ∀ name t, s.tables.get? name = some t →
    ∀ column ∈ t.fields.keys, Identifier.check column = .ok ()
  keyColumns : ∀ name key, s.options.primaryKeys.get? name = some key →
    ∀ column ∈ key.keys, Identifier.check column = .ok ()

/-- Key columns are listed under identifiers, and what is named after tables is short enough. A
table refers only to those that have a key in `keys`, and `made` are the join tables, each with its
two tables. -/
structure YieldsValidNames (s : Schema) (keys : KeyIndex)
    (made : List (String × String × String)) : Prop where
  keyColumns : ∀ name t, s.tables.get? name = some t →
    ∀ column ∈ t.options.primaryKey.getD [], Identifier.check column = .ok ()
  foreignColumns : ∀ table other r, s.tables.RefersTo table other r → keys.HasKey other →
    r.column = none → other.utf8ByteSize ≤ maxReferenced
  joinColumns : ∀ name a b ra rb, (name, a, b) ∈ made →
    s.tables.JoinsTo a b ra → s.tables.JoinsTo b a rb →
    (ra.column = none → a.utf8ByteSize ≤ maxReferenced) ∧
      (rb.column = none → b.utf8ByteSize ≤ maxReferenced)
  joinTables : ∀ name a b ra rb, (name, a, b) ∈ made →
    s.tables.JoinsTo a b ra → s.tables.JoinsTo b a rb →
    ra.joinTable = none → rb.joinTable = none → a.utf8ByteSize + b.utf8ByteSize ≤ maxJoined

theorem WellNamed.isValid_of_joinsTo (h : s.WellNamed) {table other : String} {r : Relation}
    (hr : s.tables.JoinsTo table other r) : Identifier.isValid table = true := by
  obtain ⟨t, ht, -⟩ := hr
  exact h.names table (OrderedMap.mem_keys_of_get? ht)

theorem isValid_made_iff (hs : s.WellNamed) {made : List JoinTable}
    (hmade : (s.joined defaults names).MadeOf (s.globals defaults) (s.keyed defaults) made)
    {t : JoinTable} (ht : t ∈ made) :
    Identifier.isValid t.name = true ↔
      (t.declaration.relation.joinTable = none → t.reciprocal.joinTable = none →
        t.declaration.table.utf8ByteSize + t.declaration.other.utf8ByteSize ≤ maxJoined) := by
  have hfirst := (hmade.joins t ht).joins_declaration
  have hsecond := (hmade.joins t ht).joins_reciprocal
  exact JoinTable.isValid_name_iff (hs.joins hfirst) (hs.joins hsecond)
    (hs.isValid_of_joinsTo hfirst) (hs.isValid_of_joinsTo hsecond)

theorem isValid_tables_iff (hs : s.WellNamed) {made : List JoinTable}
    (hmade : (s.joined defaults names).MadeOf (s.globals defaults) (s.keyed defaults) made) :
    (∀ name ∈ (s.resolve defaults names).schema.tables.keys, Identifier.isValid name = true) ↔
      ∀ t ∈ made, t.declaration.relation.joinTable = none → t.reciprocal.joinTable = none →
        t.declaration.table.utf8ByteSize + t.declaration.other.utf8ByteSize ≤ maxJoined := by
  constructor
  · intro h t ht
    refine (isValid_made_iff hs hmade ht).1 (h t.name ?_)
    exact (mem_keys_tables_resolve_iff hmade).2 (.inr ⟨t, ht, rfl⟩)
  · intro h name hname
    rcases (mem_keys_tables_resolve_iff hmade).1 hname with hname | ⟨t, ht, rfl⟩
    · exact hs.names name hname
    · exact (isValid_made_iff hs hmade ht).2 (h t ht)

theorem mem_tables_of_hasKey {name : String}
    (h : (s.resolve defaults names).schema.options.primaryKeys.HasKey name) :
    name ∈ (s.resolve defaults names).schema.tables.keys := by
  obtain ⟨columns, hcolumns, -⟩ := h
  rw [← keyed_resolve]
  exact OrderedMap.mem_keys_of_get? hcolumns

theorem isValid_columns_of_declared_iff (hs : s.WellNamed)
    (hnames : ∀ name ∈ (s.resolve defaults names).schema.tables.keys,
      Identifier.isValid name = true) {name : String} {t t' : Table}
    (ht : s.tables.get? name = some t)
    (ht' : (s.resolve defaults names).schema.tables.get? name = some t') :
    (∀ column ∈ t'.fields.keys, Identifier.isValid column = true) ↔
      (∀ column ∈ t.options.primaryKey.getD [], Identifier.isValid column = true) ∧
        ∀ other r, s.tables.RefersTo name other r →
          (s.resolve defaults names).schema.options.primaryKeys.HasKey other →
          r.column = none → other.utf8ByteSize ≤ maxReferenced := by
  have hkeys : (∀ column ∈ t.options.primaryKey.getD [standardKeyColumn],
      Identifier.isValid column = true) ↔
        ∀ column ∈ t.options.primaryKey.getD [], Identifier.isValid column = true := by
    have hstandard : Identifier.isValid standardKeyColumn = true := by decide
    cases t.options.primaryKey with
    | none => simp [hstandard]
    | some columns => exact Iff.rfl
  have hforeign : ∀ {other : String} {r : Relation}, s.tables.RefersTo name other r →
      (s.resolve defaults names).schema.options.primaryKeys.HasKey other →
      (Identifier.isValid (r.resolve other).column = true ↔
        (r.column = none → other.utf8ByteSize ≤ maxReferenced)) := fun hr hkey =>
    Relation.isValid_column_iff (hs.refers hr) (hnames _ (mem_tables_of_hasKey hkey))
  rw [← hkeys]
  constructor
  · intro h
    refine ⟨fun column hcolumn => h column ?_, fun other r hr hkey => ?_⟩
    · exact (mem_columns_of_declared ht ht').2 (.inl (.inl hcolumn))
    · refine (hforeign hr hkey).1 (h _ ?_)
      exact (mem_columns_of_declared ht ht').2 (.inl (.inr ⟨other, r, hr, hkey, rfl⟩))
  · rintro ⟨hlisted, hshort⟩ column hcolumn
    rcases (mem_columns_of_declared ht ht').1 hcolumn with
      (hkey | ⟨other, r, hr, hkey, rfl⟩) | hfield | hstamp
    · exact hlisted column hkey
    · exact (hforeign hr hkey).2 (hshort other r hr hkey)
    · exact (hs.tables name t ht).columns column hfield
    · rw [Table.stampedAt, Bool.and_eq_true, decide_eq_true_eq] at hstamp
      have hstamps : ∀ column ∈ timestampColumns, Identifier.isValid column = true := by decide
      exact hstamps column hstamp.2

theorem isValid_columns_of_made_iff (hs : s.WellNamed) {made : List JoinTable}
    (hmade : (s.joined defaults names).MadeOf (s.globals defaults) (s.keyed defaults) made)
    {t : JoinTable} (ht : t ∈ made) {t' : Table}
    (ht' : (s.resolve defaults names).schema.tables.get? t.name = some t') :
    (∀ column ∈ t'.fields.keys, Identifier.isValid column = true) ↔
      (t.declaration.relation.column = none →
        t.declaration.table.utf8ByteSize ≤ maxReferenced) ∧
      (t.reciprocal.column = none → t.declaration.other.utf8ByteSize ≤ maxReferenced) := by
  have hfirst := (hmade.joins t ht).joins_declaration
  have hsecond := (hmade.joins t ht).joins_reciprocal
  rw [← Relation.isValid_column_iff (hs.joins hfirst) (hs.isValid_of_joinsTo hfirst),
    ← Relation.isValid_column_iff (hs.joins hsecond) (hs.isValid_of_joinsTo hsecond)]
  simp only [mem_columns_of_made hmade ht ht', JoinTable.sides, List.exists_mem_cons_iff,
    List.not_mem_nil, false_and, exists_false, or_false, or_imp, forall_and, forall_eq']

theorem namedValidly_resolve_iff (hs : s.WellNamed) {made : List JoinTable}
    (hmade : (s.joined defaults names).MadeOf (s.globals defaults) (s.keyed defaults) made) :
    (s.resolve defaults names).schema.NamedValidly ↔
      s.YieldsValidNames (s.resolve defaults names).schema.options.primaryKeys
        (s.joined defaults names).reports := by
  have hresolved : ∀ {name : String}, name ∈ s.tables.keys ∨ (∃ t ∈ made, t.name = name) →
      ∃ t', (s.resolve defaults names).schema.tables.get? name = some t' :=
    fun hname => OrderedMap.mem_keys_iff.1 ((mem_keys_tables_resolve_iff hmade).2 hname)
  constructor
  · rintro ⟨htables, hcolumns, -⟩
    simp only [Identifier.check_eq_ok_iff] at htables hcolumns
    refine ⟨?_, ?_, ?_, ?_⟩
    · intro name t ht column hcolumn
      obtain ⟨t', ht'⟩ := hresolved (.inl (OrderedMap.mem_keys_of_get? ht))
      have hall := (isValid_columns_of_declared_iff hs htables ht ht').1 (hcolumns name t' ht')
      exact Identifier.check_eq_ok_iff.2 (hall.1 column hcolumn)
    · intro table other r hr
      obtain ⟨t, ht, -⟩ := id hr
      obtain ⟨t', ht'⟩ := hresolved (.inl (OrderedMap.mem_keys_of_get? ht))
      have hall := (isValid_columns_of_declared_iff hs htables ht ht').1 (hcolumns table t' ht')
      exact hall.2 other r hr
    · intro name a b ra rb hmem ha hb
      obtain ⟨columns, ht, rfl⟩ := hmade.made_of_report hmem ha hb
      obtain ⟨t', ht'⟩ := hresolved (.inr ⟨_, ht, rfl⟩)
      exact (isValid_columns_of_made_iff hs hmade ht ht').1 (hcolumns _ t' ht')
    · intro name a b ra rb hmem ha hb
      obtain ⟨columns, ht, -⟩ := hmade.made_of_report hmem ha hb
      exact (isValid_tables_iff hs hmade).1 htables _ ht
  · rintro ⟨hkeys, hforeign, hjoined, hmadeNames⟩
    have htables := (isValid_tables_iff hs hmade).2 fun t ht =>
      hmadeNames _ _ _ _ _ (hmade.mem_reports_iff.2 ⟨t, ht, rfl⟩)
        (hmade.joins t ht).joins_declaration (hmade.joins t ht).joins_reciprocal
    have hcolumns : ∀ name t', (s.resolve defaults names).schema.tables.get? name = some t' →
        ∀ column ∈ t'.fields.keys, Identifier.isValid column = true := by
      intro name t' ht'
      rcases (mem_keys_tables_resolve_iff hmade).1 (OrderedMap.mem_keys_of_get? ht') with
        hname | ⟨t, ht, rfl⟩
      · obtain ⟨t, ht⟩ := OrderedMap.mem_keys_iff.1 hname
        refine (isValid_columns_of_declared_iff hs htables ht ht').2 ⟨?_, hforeign name⟩
        exact fun column hcolumn => Identifier.check_eq_ok_iff.1 (hkeys name t ht column hcolumn)
      · refine (isValid_columns_of_made_iff hs hmade ht ht').2 ?_
        exact hjoined _ _ _ _ _ (hmade.mem_reports_iff.2 ⟨t, ht, rfl⟩)
          (hmade.joins t ht).joins_declaration (hmade.joins t ht).joins_reciprocal
    refine ⟨?_, ?_, ?_⟩
    · exact fun name hname => Identifier.check_eq_ok_iff.2 (htables name hname)
    · exact fun name t' ht' column hcolumn =>
        Identifier.check_eq_ok_iff.2 (hcolumns name t' ht' column hcolumn)
    · intro name key hkey column hcolumn
      obtain ⟨t', ht', hall⟩ := s.keyColumns_resolve defaults names hkey
      exact Identifier.check_eq_ok_iff.2 (hcolumns name t' ht' column (hall column hcolumn))

end Schema

/-- For what validation leaves, all compiled names are identifiers exactly if key columns are
listed under identifiers and the names of tables leave room for what is made of them. -/
theorem compile_namedValidly_iff (c : Compiler) {s s' : Schema} (hvalid : s.validate = .ok s')
    (htables : s'.tables.isEmpty = false) (hraw : s'.isCompiled = false) :
    ∃ r, c.compile s' = .ok r ∧
      (r.schema.NamedValidly ↔
        s'.YieldsValidNames r.schema.options.primaryKeys r.joinTables) := by
  obtain ⟨r, hr, hschema, hnotes⟩ := c.compile_of_uncompiled htables hraw
  obtain ⟨made, hmade⟩ := s'.madeOf_joined c.defaults c.names
  refine ⟨r, hr, ?_⟩
  rw [Compilation.joinTables_eq_reports hnotes, hschema]
  exact Schema.namedValidly_resolve_iff (Schema.wellNamed_of_validate hvalid) hmade

/-- Tables that refer to each other and are joined, with short names. -/
def catalogue : Schema :=
  ({} : Schema)
    |>.addTable "part" (({ options := { primaryKey := some ["code", "maker_id"] } } : Table)
      |>.belongsTo "maker" |>.hasManyToMany "machine" {})
    |>.addTable "maker" (({} : Table).hasMany "part" {})
    |>.addTable "machine" (({} : Table).hasManyToMany "part" { column := some "fits" })

theorem compile_catalogue_namedValidly :
    catalogue.validate = .ok catalogue ∧ catalogue.tables.isEmpty = false ∧
      catalogue.isCompiled = false ∧
      ∃ r, ({ names := .counting } : Compiler).compile catalogue = .ok r ∧
        r.schema.NamedValidly := by
  have hvalid : catalogue.validate = .ok catalogue := rfl
  refine ⟨hvalid, by decide, by decide, ?_⟩
  obtain ⟨r, hr, hiff⟩ :=
    compile_namedValidly_iff { names := .counting } hvalid (by decide) (by decide)
  refine ⟨r, hr, hiff.2 ?_⟩
  obtain rfl := Except.ok.inj hr
  have hsizes : maxReferenced = 61 ∧ maxJoined = 60 := by decide
  have hshort : ∀ name ∈ (catalogue.resolve {} .counting).schema.tables.keys,
      name.utf8ByteSize ≤ 30 := by decide
  have hjoined : ∀ {table other r}, catalogue.tables.JoinsTo table other r →
      table.utf8ByteSize ≤ 30 := by
    rintro table other r ⟨t, ht, -⟩
    have hdeclared : ∀ name ∈ catalogue.tables.keys, name.utf8ByteSize ≤ 30 := by decide
    exact hdeclared table (OrderedMap.mem_keys_of_get? ht)
  refine ⟨fun name t ht column hcolumn => ?_, fun table other r _ hkey _ => ?_,
    fun name a b ra rb _ ha hb => ?_, fun name a b ra rb _ ha hb _ _ => ?_⟩
  · have hlisted : ∀ e ∈ catalogue.tables.entries, ∀ column ∈ e.2.options.primaryKey.getD [],
        Identifier.isValid column = true := by decide
    have he := OrderedMap.mem_entries_iff.2 ht
    exact Identifier.check_eq_ok_iff.2 (hlisted (name, t) he column hcolumn)
  · have := hshort other (Schema.mem_tables_of_hasKey hkey)
    omega
  · have := hjoined ha
    have := hjoined hb
    omega
  · have := hjoined ha
    have := hjoined hb
    omega

/-- A name that is as long as it may be. -/
def longestName (c : Char) : String := String.ofList (List.replicate Identifier.maxBytes c)

/-- A key column is listed under a name with a blank in it. A column is named after a table with a
longest name, and so is a table that joins two of them. -/
def overlong : Schema :=
  ({} : Schema)
    |>.addTable (longestName 'a') (({ options := { primaryKey := some ["serial no"] } } : Table)
      |>.hasMany "remark" {} |>.hasManyToMany (longestName 'b') {})
    |>.addTable (longestName 'b') (({} : Table).hasManyToMany (longestName 'a') {})
    |>.addTable "remark" (({} : Table).belongsTo (longestName 'a'))

theorem compile_overlong_not_namedValidly :
    overlong.validate = .ok overlong ∧ overlong.isCompiled = false ∧
      ∃ r, ({ names := .counting } : Compiler).compile overlong = .ok r ∧
        (∃ name ∈ r.schema.tables.keys, Identifier.isValid name = false) ∧
        (∃ t, r.schema.tables.get? (longestName 'a') = some t ∧ "serial no" ∈ t.fields.keys) ∧
        (∃ t, r.schema.tables.get? "remark" = some t ∧
          ∃ column ∈ t.fields.keys, Identifier.isValid column = false) ∧
        ¬ r.schema.NamedValidly := by
  refine ⟨rfl, by decide, _, rfl, by decide +kernel, ⟨_, rfl, by decide +kernel⟩,
    ⟨_, rfl, by decide +kernel⟩, fun h => ?_⟩
  have hcheck := h.keyColumns (longestName 'a') _ rfl "serial no" (by decide +kernel)
  exact absurd (Identifier.check_eq_ok_iff.1 hcheck) (by decide)

end SchemaDdl
