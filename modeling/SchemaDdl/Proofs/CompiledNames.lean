import SchemaDdl.Proofs.ReferentialClosure
import SchemaDdl.Proofs.SymmetricJoin
import SchemaDdl.Schema.Validation

/-!
# Where the names of a compiled schema come from

A compiled schema has names that nobody declared as such. A join table is
called as one of its two relations says, or else after its two tables; a
foreign key column is called as its relation says, or else after the table it
refers to; a key column may be listed under a name that no field has. This file
finds the source of every name, of join tables in `JoinTable.name_cases` and of
columns in `mem_columns_of_declared` and `mem_columns_of_made`.

Validation looks at the names of tables and fields and at those that relations
give, and drops what is not an identifier. `WellNamed` is what it leaves. It
does not look at the lists of key columns, and no lemma here can say anything of
the names in them.
-/

namespace SchemaDdl

/-! ## Identifiers -/

namespace Identifier

/-- All characters are letters, digits and underscores. -/
def IsSpelled (name : String) : Prop := ∀ c ∈ name.toList, isTail c = true

instance (name : String) : Decidable (IsSpelled name) :=
  decidable_of_iff (name.toList.all isTail = true) List.all_eq_true

theorem isTail_of_isHead {c : Char} (h : isHead c = true) : isTail c = true := by
  rw [isHead, Bool.or_eq_true] at h
  rw [isTail, Char.isAlphanum, Bool.or_eq_true, Bool.or_eq_true]
  exact h.imp .inl id

theorem isSpelled_of_isValid {name : String} (h : isValid name = true) : IsSpelled name := by
  rw [isValid, Bool.and_eq_true] at h
  intro c hc
  revert h hc
  cases name.toList with
  | nil => exact fun _ hc => by cases hc
  | cons head r =>
      rw [isWord, Bool.and_eq_true, List.all_eq_true]
      rintro ⟨-, hhead, hr⟩ hc
      rcases List.mem_cons.1 hc with rfl | hc
      · exact isTail_of_isHead hhead
      · exact hr c hc

theorem IsSpelled.append {x y : String} (hx : IsSpelled x) (hy : IsSpelled y) :
    IsSpelled (x ++ y) := by
  intro c hc
  rw [String.toList_append, List.mem_append] at hc
  exact hc.elim (hx c) (hy c)

theorem IsSpelled.notMem {name : String} (h : IsSpelled name) {c : Char} (hc : isTail c = false) :
    c ∉ name.toList := fun hmem => Bool.eq_false_iff.1 hc (h c hmem)

theorem check_eq_ok_iff {name : String} : check name = .ok () ↔ isValid name = true := by
  rw [check, isValid, Bool.and_eq_true, decide_eq_true_eq]
  split
  · next hlong => exact iff_of_false (fun h => by cases h) fun h => absurd h.1 (Nat.not_le.2 hlong)
  · next hshort =>
      split
      · next hword => exact iff_of_true rfl ⟨Nat.not_lt.1 hshort, hword⟩
      · next hword => exact iff_of_false (fun h => by cases h) fun h => hword h.2

end Identifier

/-! ## What validation leaves -/

structure Relation.WellNamed (r : Relation) : Prop where
  column : ∀ name, r.column = some name → Identifier.isValid name = true
  joinTable : ∀ name, r.joinTable = some name → Identifier.isValid name = true

theorem Relation.wellNamed_of_isNamedWell {r : Relation} (h : r.isNamedWell = true) :
    r.WellNamed := by
  have hall : ∀ name ∈ r.column.toList ++ r.joinTable.toList, Identifier.isValid name = true := by
    rw [isNamedWell, Option.isNone_iff_eq_none, nameError?, List.findSome?_eq_none_iff] at h
    intro name hname
    rw [← Identifier.check_eq_ok_iff]
    have hcheck := h name hname
    split at hcheck
    · assumption
    · cases hcheck
  refine ⟨fun name hname => hall name ?_, fun name hname => hall name ?_⟩
  · simp [hname]
  · simp [hname]

structure Table.WellNamed (t : Table) : Prop where
  columns : ∀ column ∈ t.fields.keys, Identifier.isValid column = true
  oneToMany : ∀ other r, t.oneToMany.get? other = some r → r.WellNamed
  oneToOne : ∀ other r, t.oneToOne.get? other = some r → r.WellNamed
  manyToMany : ∀ other r, t.manyToMany.get? other = some r → r.WellNamed

theorem Table.wellNamed_validated (t : Table) : t.validated.WellNamed := by
  have hrelations : ∀ rs : OrderedMap Relation, ∀ other r,
      (rs.filter fun _ r => r.isNamedWell).get? other = some r → r.WellNamed :=
    fun rs other r h => Relation.wellNamed_of_isNamedWell (OrderedMap.get?_filter_iff.1 h).2
  refine ⟨fun column hcolumn => ?_, hrelations _, hrelations _, hrelations _⟩
  obtain ⟨field, hfield⟩ := OrderedMap.mem_keys_iff.1 hcolumn
  exact (OrderedMap.get?_filter_iff.1 hfield).2

namespace Schema

structure WellNamed (s : Schema) : Prop where
  names : ∀ name ∈ s.tables.keys, Identifier.isValid name = true
  tables : ∀ name t, s.tables.get? name = some t → t.WellNamed

/-- A validated table is a declared one with what is named badly left out. -/
theorem get?_tables_validate {s s' : Schema} (h : s.validate = .ok s') {name : String} {t : Table} :
    s'.tables.get? name = some t ↔
      Identifier.isValid name = true ∧ ∃ t', s.tables.get? name = some t' ∧ t'.validated = t := by
  rw [validate] at h
  split at h
  · cases h
  · rw [← Except.ok.inj h, OrderedMap.get?_map, Option.map_eq_some_iff]
    constructor
    · rintro ⟨t', ht', heq⟩
      obtain ⟨ht', hvalid⟩ := OrderedMap.get?_filter_iff.1 ht'
      exact ⟨hvalid, t', ht', heq⟩
    · rintro ⟨hvalid, t', ht', heq⟩
      exact ⟨t', OrderedMap.get?_filter_iff.2 ⟨ht', hvalid⟩, heq⟩

theorem wellNamed_of_validate {s s' : Schema} (h : s.validate = .ok s') : s'.WellNamed := by
  constructor
  · intro name hname
    obtain ⟨t, ht⟩ := OrderedMap.mem_keys_iff.1 hname
    exact ((get?_tables_validate h).1 ht).1
  · intro name t ht
    obtain ⟨-, t', -, rfl⟩ := (get?_tables_validate h).1 ht
    exact t'.wellNamed_validated

end Schema

/-! ## Relations of a table -/

/-- A relation that gives a table a foreign key, with the table that it refers to. -/
def Tables.RefersTo (ts : Tables) (table other : String) (r : Relation) : Prop :=
  ∃ t, ts.get? table = some t ∧
    (other ∈ t.manyToOne ∧ ts.converse? table other = some r ∨ t.oneToOne.get? other = some r)

/-- A many-to-many relation of a table to another. -/
def Tables.JoinsTo (ts : Tables) (table other : String) (r : Relation) : Prop :=
  ∃ t, ts.get? table = some t ∧ t.manyToMany.get? other = some r

theorem Tables.mem_foreignKeys_iff {ts : Tables} {table : String} {e : String × ForeignKey} :
    e ∈ ts.foreignKeys table ↔ ∃ r, ts.RefersTo table e.1 r ∧ r.resolve e.1 = e.2 := by
  rw [Tables.foreignKeys]
  cases ht : ts.get? table with
  | none => simp [Tables.RefersTo, ht]
  | some t =>
      simp only [List.mem_append, manyToOneKeys, oneToOneKeys, List.mem_filterMap, List.mem_map,
        Option.map_eq_some_iff, Tables.RefersTo, ht, Option.some.injEq, exists_eq_left']
      constructor
      · rintro (⟨other, hother, r, hr, rfl⟩ | ⟨⟨other, r⟩, hr, rfl⟩)
        · exact ⟨r, .inl ⟨hother, hr⟩, rfl⟩
        · exact ⟨r, .inr (OrderedMap.mem_entries_iff.1 hr), rfl⟩
      · rintro ⟨r, ⟨hother, hr⟩ | hr, heq⟩
        · exact .inl ⟨e.1, hother, r, hr, Prod.ext rfl heq⟩
        · exact .inr ⟨(e.1, r), OrderedMap.mem_entries_iff.2 hr, Prod.ext rfl heq⟩

theorem Tables.JoinsTo.unique {ts : Tables} {table other : String} {r r' : Relation}
    (h : ts.JoinsTo table other r) (h' : ts.JoinsTo table other r') : r = r' := by
  obtain ⟨t, ht, hr⟩ := h
  obtain ⟨t', ht', hr'⟩ := h'
  obtain rfl := Option.some.inj (ht.symm.trans ht')
  exact Option.some.inj (hr.symm.trans hr')

namespace Schema.WellNamed

variable {s : Schema} {table other : String} {r : Relation}

theorem refers (h : s.WellNamed) (hr : s.tables.RefersTo table other r) : r.WellNamed := by
  obtain ⟨t, ht, ⟨-, hconverse⟩ | hone⟩ := hr
  · rw [Tables.converse?, Option.bind_eq_bind, Option.bind_eq_some_iff] at hconverse
    obtain ⟨t', ht', hmany⟩ := hconverse
    exact (h.tables other t' ht').oneToMany table r hmany
  · exact (h.tables table t ht).oneToOne other r hone

theorem joins (h : s.WellNamed) (hr : s.tables.JoinsTo table other r) : r.WellNamed := by
  obtain ⟨t, ht, hmany⟩ := hr
  exact (h.tables table t ht).manyToMany other r hmany

end Schema.WellNamed

/-! ## Tables -/

/-- A join table is called as one of its sides says, or after the two tables. -/
theorem JoinTable.name_cases (t : JoinTable) :
    t.name = Naming.joinTable t.declaration.table t.declaration.other ∨
      t.declaration.relation.joinTable = some t.name ∨ t.reciprocal.joinTable = some t.name := by
  have hgiven : ∀ {r : Relation} {name : String}, r.givenJoinTable = some name →
      r.joinTable = some name := fun h => (Option.filter_eq_some_iff.1 h).1
  rw [name, joinTableName]
  cases hdeclared : t.declaration.relation.givenJoinTable with
  | some name => exact .inr (.inl (hgiven hdeclared))
  | none =>
      cases hreciprocal : t.reciprocal.givenJoinTable with
      | some name => exact .inr (.inr (hgiven hreciprocal))
      | none => exact .inl rfl

namespace Schema

variable {s : Schema} {defaults : Settings} {names : NameSource}

theorem joins_of_keyed {table other : String} {r : Relation}
    (h : ∃ t, (s.keyed defaults).tables.get? table = some t ∧ t.manyToMany.get? other = some r) :
    s.tables.JoinsTo table other r := by
  obtain ⟨t, ht, hr⟩ := h
  rw [get?_tables_keyed] at ht
  obtain ⟨t', ht', rfl⟩ := Option.map_eq_some_iff.1 ht
  exact ⟨t', ht', t'.settled_manyToMany (s.globals defaults) ▸ hr⟩

end Schema

namespace JoinTable.Joins

variable {s : Schema} {defaults : Settings} {globals : Settings} {t : JoinTable}

theorem joins_declaration (h : t.Joins globals (s.keyed defaults)) :
    s.tables.JoinsTo t.declaration.table t.declaration.other t.declaration.relation :=
  Schema.joins_of_keyed (Tables.mem_manyToMany.1 h.declared)

theorem joins_reciprocal (h : t.Joins globals (s.keyed defaults)) :
    s.tables.JoinsTo t.declaration.other t.declaration.table t.reciprocal :=
  Schema.joins_of_keyed h.reciprocal

/-- The name of a join table is spelled as its tables and relations are. -/
theorem isSpelled_name (h : t.Joins globals (s.keyed defaults)) (hs : s.WellNamed) :
    Identifier.IsSpelled t.name := by
  have hvalid : ∀ {table other : String} {r : Relation}, s.tables.JoinsTo table other r →
      Identifier.IsSpelled table := fun ⟨_, ht, _⟩ =>
    Identifier.isSpelled_of_isValid (hs.names _ (OrderedMap.mem_keys_of_get? ht))
  rcases t.name_cases with hname | hname | hname
  · rw [hname, Naming.joinTable]
    exact ((hvalid h.joins_declaration).append (by decide)).append (hvalid h.joins_reciprocal)
  · exact Identifier.isSpelled_of_isValid ((hs.joins h.joins_declaration).joinTable _ hname)
  · exact Identifier.isSpelled_of_isValid ((hs.joins h.joins_reciprocal).joinTable _ hname)

end JoinTable.Joins

/-- A reported join table was made from the two relations that its tables declare. -/
theorem JoinedTables.MadeOf.made_of_report {s : Schema} {globals defaults : Settings}
    {j : JoinedTables} {made : List JoinTable} (h : j.MadeOf globals (s.keyed defaults) made)
    {name a b : String} {ra rb : Relation} (hreport : (name, a, b) ∈ j.reports)
    (ha : s.tables.JoinsTo a b ra) (hb : s.tables.JoinsTo b a rb) :
    ∃ columns, (⟨⟨a, b, ra⟩, rb, columns⟩ : JoinTable) ∈ made ∧
      joinTableName ⟨a, b, ra⟩ rb = name := by
  obtain ⟨⟨⟨a', b', ra'⟩, rb', columns⟩, ht, heq⟩ := h.mem_reports_iff.1 hreport
  obtain ⟨hname, rfl, rfl⟩ := by simpa using heq
  obtain rfl := ha.unique (h.joins _ ht).joins_declaration
  obtain rfl := hb.unique (h.joins _ ht).joins_reciprocal
  exact ⟨columns, ht, hname⟩

namespace Schema

variable {s : Schema} {defaults : Settings} {names : NameSource} {name : String}

theorem mem_keys_tables_resolve_iff {made : List JoinTable}
    (hmade : (s.joined defaults names).MadeOf (s.globals defaults) (s.keyed defaults) made) :
    name ∈ (s.resolve defaults names).schema.tables.keys ↔
      name ∈ s.tables.keys ∨ ∃ t ∈ made, t.name = name := by
  rw [keys_tables_resolve, hmade.keys_tables, keyed, KeyedTables.keys_tables_ofTables,
    List.mem_append, List.mem_map]

theorem isSpelled_of_mem_resolve (hs : s.WellNamed)
    (hname : name ∈ (s.resolve defaults names).schema.tables.keys) :
    Identifier.IsSpelled name := by
  obtain ⟨made, hmade⟩ := s.madeOf_joined defaults names
  rcases (mem_keys_tables_resolve_iff hmade).1 hname with hname | ⟨t, ht, rfl⟩
  · exact Identifier.isSpelled_of_isValid (hs.names name hname)
  · exact (hmade.joins t ht).isSpelled_name hs

end Schema

/-! ## Columns -/

namespace Table

theorem mem_keys_keyFields {t : Table} {column : String} :
    column ∈ t.keyFields.keys ↔ column ∈ t.options.primaryKey.getD [standardKeyColumn] := by
  rw [keyFields]
  cases t.options.primaryKey with
  | none => rfl
  | some columns =>
      rw [OrderedMap.mem_keys_ofList, List.map_map]
      simp

theorem mem_keys_fields_settled {globals : Settings} {t : Table} {column : String} :
    column ∈ (t.settled globals).fields.keys ↔
      column ∈ t.fields.keys ∨ t.stampedAt globals column = true := by
  rw [OrderedMap.mem_keys_iff, OrderedMap.mem_keys_iff]
  simp only [get?_fields_settled]
  cases t.stampedAt globals column with
  | false => simp
  | true => simp

end Table

namespace Schema

variable {s : Schema} {defaults : Settings} {names : NameSource} {name column : String}

/-- The columns of a declared table: its key, its foreign keys, its fields and its timestamps. -/
theorem mem_columns_of_declared {t t' : Table} (ht : s.tables.get? name = some t)
    (ht' : (s.resolve defaults names).schema.tables.get? name = some t') :
    column ∈ t'.fields.keys ↔
      (column ∈ t.options.primaryKey.getD [standardKeyColumn] ∨
        ∃ other r, s.tables.RefersTo name other r ∧
          (s.resolve defaults names).schema.options.primaryKeys.HasKey other ∧
          (r.resolve other).column = column) ∨
      column ∈ t.fields.keys ∨ t.stampedAt (s.globals defaults) column = true := by
  obtain ⟨hjoined, hkey⟩ := joined_of_declared ht defaults names
  obtain ⟨t'', ht'', hfields⟩ := resolve_table_of_joined hjoined
  obtain rfl := Option.some.inj (ht'.symm.trans ht'')
  rw [hfields, mem_keys_mergeColumns, hkey, Option.getD_some, Table.mem_keys_keyFields,
    Table.settled_primaryKey, Table.mem_keys_fields_settled, foreignColumns,
    OrderedMap.mem_keys_ofList, KeyIndex.mem_foreignColumns_iff, primaryKeys_resolve]
  refine or_congr_left (or_congr_right ?_)
  constructor
  · rintro ⟨⟨other, fk⟩, he, hother, hcolumn⟩
    obtain ⟨r, hr, heq⟩ := Tables.mem_foreignKeys_iff.1 he
    exact ⟨other, r, hr, hother, heq ▸ hcolumn⟩
  · rintro ⟨other, r, hr, hother, hcolumn⟩
    exact ⟨(other, r.resolve other), Tables.mem_foreignKeys_iff.2 ⟨r, hr, rfl⟩, hother, hcolumn⟩

/-- The columns of a join table: one for each side. -/
theorem mem_columns_of_made {made : List JoinTable}
    (hmade : (s.joined defaults names).MadeOf (s.globals defaults) (s.keyed defaults) made)
    {t : JoinTable} (ht : t ∈ made) {t' : Table}
    (ht' : (s.resolve defaults names).schema.tables.get? t.name = some t') :
    column ∈ t'.fields.keys ↔ ∃ side ∈ t.sides, (side.2.resolve side.1).column = column := by
  obtain ⟨names', columns, hcolumns, hget⟩ := joins_of_made hmade ht
  obtain rfl := Option.some.inj (hget.symm.trans ht')
  rw [← List.mem_map, ← JoinColumns.primaryKey_ofSides hcolumns]
  exact (JoinColumns.settled_ofSides hcolumns).keyed column

end Schema

end SchemaDdl
