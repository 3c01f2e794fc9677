import SchemaDdl.Proofs.Resolution

/-!
# A compiled schema refers only to what it has

The key index, the constraint index and the tables of a compiled schema are
filled by three passes that know little of each other. What holds them together
is that keys only ever grow. A pass that looks a key up finds it in an index
that the final one extends, so what it found is still there at the end; and the
last pass merges every key column into its table before anything else, so a
column that is in the index is in the table too. A constraint's own column is
there because the column and the constraint come from one foreign key.

`compile_referentiallyClosed` says this of every schema, with cycles, dangling
names, colliding columns and empty keys, and for every source of names.
-/

namespace SchemaDdl

structure Schema.ReferentiallyClosed (s : Schema) : Prop where
  keyed : s.options.primaryKeys.keys = s.tables.keys
  keyColumns : ∀ name key, s.options.primaryKeys.get? name = some key →
    ∃ t, s.tables.get? name = some t ∧ ∀ column ∈ key.keys, column ∈ t.fields.keys
  constraintColumns : ∀ name constraints column c,
    s.options.constraints.get? name = some constraints → constraints.get? column = some c →
    c.column = column ∧ ∃ t, s.tables.get? name = some t ∧ column ∈ t.fields.keys
  constraintTargets : ∀ name constraints column c,
    s.options.constraints.get? name = some constraints → constraints.get? column = some c →
    ∃ t key, s.tables.get? c.referencedTable = some t ∧
      s.options.primaryKeys.get? c.referencedTable = some key ∧
      c.referencedColumn ∈ key.keys ∧ c.referencedColumn ∈ t.fields.keys
  constrained : ∀ name constraints,
    s.options.constraints.get? name = some constraints → constraints.isEmpty = false

namespace Schema

variable {s : Schema} {defaults : Settings} {names : NameSource}

theorem keyed_resolve (s : Schema) (defaults : Settings) (names : NameSource) :
    (s.resolve defaults names).schema.options.primaryKeys.keys =
      (s.resolve defaults names).schema.tables.keys := by
  obtain ⟨made, hmade⟩ := s.madeOf_joined defaults names
  rw [primaryKeys_resolve, keys_tables_resolve]
  exact hmade.keys_keys (KeyedTables.complete_ofTables _ _)

/-- A table of the joined schema is in the resolved one with its columns merged. -/
theorem resolve_table_of_joined {name : String} {t : Table}
    (h : (s.joined defaults names).tables.get? name = some t) :
    ∃ t', (s.resolve defaults names).schema.tables.get? name = some t' ∧
      t'.fields = mergeColumns ((s.joined defaults names).keys.get? name)
        (s.foreignColumns defaults names name) t.fields := by
  rw [get?_tables_resolve, h]
  exact ⟨_, rfl, rfl⟩

theorem keyColumns_resolve (s : Schema) (defaults : Settings) (names : NameSource) {name : String}
    {key : OrderedMap Field}
    (h : (s.resolve defaults names).schema.options.primaryKeys.get? name = some key) :
    ∃ t, (s.resolve defaults names).schema.tables.get? name = some t ∧
      ∀ column ∈ key.keys, column ∈ t.fields.keys := by
  have hmem : name ∈ (s.joined defaults names).tables.keys := by
    rw [← keys_tables_resolve, ← keyed_resolve]
    exact OrderedMap.mem_keys_of_get? h
  obtain ⟨t, ht⟩ := OrderedMap.mem_keys_iff.1 hmem
  obtain ⟨t', ht', hfields⟩ := resolve_table_of_joined ht
  rw [primaryKeys_resolve] at h
  refine ⟨t', ht', fun column hcolumn => ?_⟩
  rw [hfields, mem_keys_mergeColumns, h]
  exact .inl (.inl hcolumn)

/-- A constraint that is matched with columns refers to a key column. -/
theorem constraintTargets_of_fromKey {fk : ForeignKey} {key : Field} {c : Constraint}
    (h : c.FromKey (s.joined defaults names).keys fk key) :
    ∃ t key, (s.resolve defaults names).schema.tables.get? c.referencedTable = some t ∧
      (s.resolve defaults names).schema.options.primaryKeys.get? c.referencedTable = some key ∧
      c.referencedColumn ∈ key.keys ∧ c.referencedColumn ∈ t.fields.keys := by
  obtain ⟨columns, hcolumns, hcolumn⟩ := KeyIndex.referenced_ok h.referenced
  obtain ⟨t, ht, hall⟩ := s.keyColumns_resolve defaults names hcolumns
  have hmem := OrderedMap.mem_keys_of_get? hcolumn
  exact ⟨t, columns, ht, hcolumns, hmem, hall _ hmem⟩

theorem referentiallyClosed_resolve (s : Schema) (defaults : Settings) (names : NameSource) :
    (s.resolve defaults names).schema.ReferentiallyClosed := by
  obtain ⟨made, hmade⟩ := s.madeOf_joined defaults names
  refine ⟨s.keyed_resolve defaults names, fun _ _ h => s.keyColumns_resolve defaults names h,
    ?_, ?_, ?_⟩
  · intro name constraints column c hname hc
    obtain ⟨-, ⟨t, ht, hmatched⟩ | ⟨t, ht, rfl, hmatched⟩⟩ := constraints_origin hmade hname
    · obtain ⟨fk, key, -, hcolumn, hfield⟩ := hmatched column c hc
      have hkeyed := s.get?_tables_keyed defaults name
      rw [ht] at hkeyed
      obtain ⟨t', ht', hfields⟩ := resolve_table_of_joined (hmade.get?_tables_of_keyed hkeyed)
      refine ⟨hcolumn, t', ht', ?_⟩
      rw [hfields, mem_keys_mergeColumns]
      exact .inl (.inr (OrderedMap.mem_keys_of_get? hfield))
    · obtain ⟨fk, key, -, hcolumn, hfield⟩ := hmatched column c hc
      have hjoined := hmade.get?_tables_iff.2 (.inr ⟨t, ht, rfl, rfl⟩)
      obtain ⟨t', ht', hfields⟩ := resolve_table_of_joined hjoined
      refine ⟨hcolumn, t', ht', ?_⟩
      rw [hfields, mem_keys_mergeColumns]
      exact .inr (OrderedMap.mem_keys_of_get? hfield)
  · intro name constraints column c hname hc
    obtain ⟨-, ⟨t, ht, hmatched⟩ | ⟨t, ht, rfl, hmatched⟩⟩ := constraints_origin hmade hname
    · obtain ⟨fk, key, hfrom, -⟩ := hmatched column c hc
      exact constraintTargets_of_fromKey hfrom
    · obtain ⟨fk, key, hfrom, -⟩ := hmatched column c hc
      exact constraintTargets_of_fromKey hfrom
  · intro name constraints hname
    exact (constraints_origin hmade hname).1

end Schema

/-- Compiling a schema with tables answers with a schema that refers only to what it has. -/
theorem compile_referentiallyClosed (c : Compiler) (s : Schema)
    (htables : s.tables.isEmpty = false) (hraw : s.isCompiled = false) :
    ∃ r, c.compile s = .ok r ∧ r.schema.ReferentiallyClosed := by
  obtain ⟨r, hr, hschema, -⟩ := c.compile_of_uncompiled htables hraw
  exact ⟨r, hr, hschema ▸ s.referentiallyClosed_resolve c.defaults c.names⟩

/-- Two tables that refer to each other, to themselves and to a table that is not there. -/
def entangled : Schema :=
  ({} : Schema)
    |>.addTable "user" ((({} : Table).hasOne "post" { column := some "id" }).hasOne "user" {}
      |>.hasManyToMany "post" {} |>.hasMany "post" { cascade := .setNull })
    |>.addTable "post" ((({} : Table).belongsTo "user").hasOne "ghost" {}
      |>.hasManyToMany "user" { column := some "user_id" })

theorem compile_entangled_referentiallyClosed :
    entangled.tables.isEmpty = false ∧ entangled.isCompiled = false ∧
      ∃ r, ({ names := .counting } : Compiler).compile entangled = .ok r ∧
        r.schema.ReferentiallyClosed :=
  ⟨by decide, by decide, compile_referentiallyClosed _ entangled (by decide) (by decide)⟩

end SchemaDdl
