import SchemaDdl.Proofs.CreatedColumns

/-!
# What a foreign key column takes over from the key

A foreign key column is made of a relation and a key column. The relation says
what the reference is: whether it is unique, and what stands there for a row
that says nothing. The key column gives the type. But the column begins as a
copy of the whole key column, and only what the relation does ask for is
written over the copy. A key column that is unique makes a unique reference of
every relation to it, and one with a default leaves the default behind in a
column that is null when the relation gives none.

`ForeignKey.decides_columnField_iff` says when the relation alone decides. Of
several relations of one name the last that finds a key is the one whose column
stays; `KeyIndex.source?` is that relation with the key column it copied, for
declared tables and join tables alike, and every derived column of a compiled
schema is read off it.
-/

namespace SchemaDdl

/-! ## The copy -/

namespace ForeignKey

/-- Uniqueness, default and nullability of the column are as the relation has them. -/
structure Decides (fk : ForeignKey) (f : Field) : Prop where
  unique : f.isUnique = true ↔ fk.unique = true
  defaultValue : f.defaultValue = fk.defaultValue
  notNull : f.nullable = some false ↔ fk.defaultValue ≠ none

theorem isUnique_columnField (fk : ForeignKey) (key : Field) :
    (fk.columnField key).isUnique = (fk.unique || key.isUnique) := by
  rw [columnField, Field.isUnique]
  cases fk.unique with
  | false => rfl
  | true => rfl

theorem defaultValue_columnField (fk : ForeignKey) (key : Field) :
    (fk.columnField key).defaultValue = fk.defaultValue.or key.defaultValue := by
  rw [columnField]
  cases fk.defaultValue with
  | none => rfl
  | some v => rfl

/-- The relation alone decides exactly if the key column has nothing that the relation does not
replace. -/
theorem decides_columnField_iff (fk : ForeignKey) (key : Field) :
    fk.Decides (fk.columnField key) ↔
      (key.isUnique = true → fk.unique = true) ∧
        (key.defaultValue ≠ none → fk.defaultValue ≠ none) := by
  have hunique : ((fk.columnField key).isUnique = true ↔ fk.unique = true) ↔
      (key.isUnique = true → fk.unique = true) := by
    rw [isUnique_columnField, Bool.or_eq_true]
    exact or_iff_left_iff_imp
  have hdefault : (fk.columnField key).defaultValue = fk.defaultValue ↔
      (key.defaultValue ≠ none → fk.defaultValue ≠ none) := by
    rw [defaultValue_columnField]
    cases fk.defaultValue with
    | none => simp
    | some v => simp
  have hnull : (fk.columnField key).nullable = some false ↔ fk.defaultValue ≠ none := by
    rw [columnField]
    cases fk.defaultValue with
    | none => simp
    | some v => simp
  exact ⟨fun h => ⟨hunique.1 h.unique, hdefault.1 h.defaultValue⟩,
    fun h => ⟨hunique.2 h.1, hdefault.2 h.2, hnull⟩⟩

/-- Of a table with a key every relation makes a column. -/
theorem field_of_hasKey {keys : KeyIndex} {table : String} (h : keys.HasKey table)
    (fk : ForeignKey) :
    ∃ column key, keys.referenced table fk = .ok (column, key) ∧
      fk.field keys table = .ok (fk.columnField key) := by
  obtain ⟨⟨column, key⟩, hfound⟩ := KeyIndex.exists_referenced_iff.2 h
  refine ⟨column, key, hfound, ?_⟩
  rw [field, hfound]
  rfl

end ForeignKey

/-! ## Which relation a column is made for -/

theorem OrderedMap.get?_ofList_map {α β : Type _} (f : α → β) (l : List (String × α)) (k : String) :
    (ofList (l.map fun e => (e.1, f e.2))).get? k = (l.reverse.lookup k).map f := by
  rw [get?_ofList, ← List.map_reverse]
  exact lookup_map_snd (fun _ => f) l.reverse k

namespace KeyIndex

/-- The foreign keys that find a key, under the names of their columns and with the key column
that each copies. -/
def sources (keys : KeyIndex) (l : List (String × ForeignKey)) :
    List (String × ForeignKey × Field) :=
  l.filterMap fun e =>
    match keys.referenced e.1 e.2 with
    | .ok (_, key) => some (e.2.column, e.2, key)
    | .error _ => none

/-- The foreign key whose column stays under that name, and the key column that it copies. -/
def source? (keys : KeyIndex) (l : List (String × ForeignKey)) (column : String) :
    Option (ForeignKey × Field) :=
  (keys.sources l).reverse.lookup column

variable {keys : KeyIndex} {l : List (String × ForeignKey)} {column : String}

theorem foreignColumns_eq (keys : KeyIndex) (l : List (String × ForeignKey)) :
    keys.foreignColumns l = (keys.sources l).map fun e => (e.1, e.2.1.columnField e.2.2) := by
  rw [foreignColumns, sources, List.map_filterMap]
  refine List.filterMap_congr fun e _ => ?_
  cases keys.referenced e.1 e.2 with
  | ok found => rfl
  | error error => rfl

theorem lookup_foreignColumns (keys : KeyIndex) (l : List (String × ForeignKey))
    (column : String) :
    (keys.foreignColumns l).reverse.lookup column =
      (keys.source? l column).map fun m => m.1.columnField m.2 := by
  rw [foreignColumns_eq, ← List.map_reverse]
  exact lookup_map_snd (fun _ (m : ForeignKey × Field) => m.1.columnField m.2) _ column

theorem source?_eq_none_iff :
    keys.source? l column = none ↔ column ∉ (keys.foreignColumns l).map Prod.fst := by
  rw [source?, lookup_eq_none_iff_notMem, List.map_reverse, List.mem_reverse, foreignColumns_eq,
    List.map_map]
  rfl

end KeyIndex

/-- The columns of a join table, read off its two sides. -/
theorem JoinColumns.get?_fields_ofSides {keys : KeyIndex} {withConstraints : Bool}
    {names : NameSource} {a b : String} {ra rb : Relation} {c : JoinColumns}
    (h : ofSides keys withConstraints names [(a, ra), (b, rb)] = .ok c) (column : String) :
    c.fields.get? column =
      (keys.source? [sideKey a ra, sideKey b rb] column).map fun m => m.1.joinField m.2 := by
  obtain ⟨ca, ka, cb, kb, ha, hb, hfields, -⟩ := ofSides_pair h
  have hsources : keys.sources [sideKey a ra, sideKey b rb] =
      [((ra.resolve a).column, ra.resolve a, ka), ((rb.resolve b).column, rb.resolve b, kb)] := by
    simp only [KeyIndex.sources, sideKey, List.filterMap_cons, ha, hb, List.filterMap_nil]
  rw [hfields, KeyIndex.source?, hsources]
  exact OrderedMap.get?_ofList_map (fun m : ForeignKey × Field => m.1.joinField m.2)
    [((ra.resolve a).column, ra.resolve a, ka), ((rb.resolve b).column, rb.resolve b, kb)] column

/-! ## Created tables and their indexes -/

namespace Sql

/-- The script creates a table of that name, and so that `p` holds of its layout. -/
def CreatesWith (script : List Statement) (table : String) (p : TableLayout → Prop) : Prop :=
  ∃ layout, .createTable layout ∈ script ∧ layout.name = table ∧ p layout

/-- The script creates the table with a unique index of the column. -/
def UniquelyIndexed (script : List Statement) (table column : String) : Prop :=
  CreatesWith script table fun layout => ⟨column, true⟩ ∈ layout.indexes

end Sql

open Sql

theorem Schema.createsWith_script_iff {s : Schema} {defaults : Settings}
    {tablePrefix name : String} {p : TableLayout → Prop} :
    CreatesWith (s.script defaults tablePrefix) (Naming.physical tablePrefix name) p ↔
      ∃ t, s.tables.get? name = some t ∧
        p (s.layoutOf (s.globals defaults) tablePrefix (name, t)) := by
  simp only [CreatesWith, createTable_mem_script_iff]
  constructor
  · rintro ⟨_, ⟨⟨name', t⟩, he, rfl⟩, hname, hp⟩
    obtain rfl := Naming.physical_inj hname
    exact ⟨t, OrderedMap.mem_entries_iff.1 he, hp⟩
  · rintro ⟨t, ht, hp⟩
    exact ⟨_, ⟨(name, t), OrderedMap.mem_entries_iff.2 ht, rfl⟩, rfl, hp⟩

namespace Table

variable {t : Table}

theorem mem_columns {c : Column} :
    c ∈ t.columns ↔ ∃ f, t.fields.get? c.name = some f ∧ TypedField.ofField f = .ok c.typed := by
  obtain ⟨name, typed⟩ := c
  rw [columns, List.mem_filterMap]
  constructor
  · rintro ⟨⟨name', f⟩, he, hc⟩
    split at hc
    · next typed' hf =>
        obtain ⟨rfl, rfl⟩ := Column.mk.inj (Option.some.inj hc)
        exact ⟨f, OrderedMap.mem_entries_iff.1 he, hf⟩
    · cases hc
  · rintro ⟨f, hf, htyped⟩
    exact ⟨(name, f), OrderedMap.mem_entries_iff.2 hf, by simp only [htyped]⟩

/-- What a column line renders is the field with its boolean type settled. -/
theorem exists_column_iff {column : String} (p : Field → Prop) :
    (∃ c ∈ t.columns, c.name = column ∧ p c.typed.field) ↔
      ∃ f, t.fields.get? column = some f ∧ f.isSupported = true ∧ p f.coerced := by
  constructor
  · rintro ⟨c, hc, rfl, hp⟩
    obtain ⟨f, hf, htyped⟩ := mem_columns.1 hc
    obtain ⟨type, -, htype⟩ := Field.ofField_ok_iff.1 htyped
    rw [htype] at hp
    exact ⟨f, hf, Field.exists_ofField_iff.1 ⟨_, htyped⟩, hp⟩
  · rintro ⟨f, hf, hsupported, hp⟩
    obtain ⟨typed, htyped⟩ := Field.exists_ofField_iff.2 hsupported
    obtain ⟨type, -, rfl⟩ := Field.ofField_ok_iff.1 htyped
    exact ⟨⟨column, _⟩, mem_columns.2 ⟨f, hf, htyped⟩, rfl, hp⟩

end Table

theorem Field.isUnique_coerced (f : Field) : f.coerced.isUnique = f.isUnique := by
  rw [coerced]
  split
  · rfl
  · rfl

/-- A column with an index is one of the table, supported, and related or unique. -/
theorem mem_indexesOf_iff {ts : Tables} {table : String} {t : Table} {i : Index} :
    i ∈ indexesOf ts table t ↔
      ∃ f, t.fields.get? i.column = some f ∧ f.isSupported = true ∧ f.isUnique = i.unique ∧
        (isRelationColumn ts table t i.column = true ∨ i.unique = true) := by
  have hcolumn : i ∈ indexesOf ts table t ↔
      ∃ c ∈ t.columns, c.name = i.column ∧ (c.typed.field.isUnique = i.unique ∧
        (isRelationColumn ts table t i.column = true ∨ i.unique = true)) := by
    obtain ⟨column, unique⟩ := i
    simp only [indexesOf, indexOf, List.map_append, List.mem_append, List.mem_map, List.mem_filter,
      Index.mk.injEq, Bool.and_eq_true, Bool.not_eq_true']
    constructor
    · rintro (⟨c, ⟨hc, hrelated⟩, rfl, rfl⟩ | ⟨c, ⟨hc, hunique, -⟩, rfl, rfl⟩)
      · exact ⟨c, hc, rfl, rfl, .inl hrelated⟩
      · exact ⟨c, hc, rfl, rfl, .inr hunique⟩
    · rintro ⟨c, hc, rfl, rfl, h⟩
      cases hrelated : isRelationColumn ts table t c.name with
      | true => exact .inl ⟨c, ⟨hc, hrelated⟩, rfl, rfl⟩
      | false =>
          rw [hrelated] at h
          exact .inr ⟨c, ⟨hc, h.resolve_left Bool.false_ne_true, hrelated⟩, rfl, rfl⟩
  rw [hcolumn, Table.exists_column_iff fun f => f.isUnique = i.unique ∧
    (isRelationColumn ts table t i.column = true ∨ i.unique = true)]
  simp only [Field.isUnique_coerced]

/-- The relations make no difference to whether a column is uniquely indexed. -/
theorem Schema.uniquelyIndexed_script_iff {s : Schema} {defaults : Settings}
    {tablePrefix name column : String} :
    UniquelyIndexed (s.script defaults tablePrefix) (Naming.physical tablePrefix name) column ↔
      ∃ f, s.field? name column = some f ∧ f.isSupported = true ∧ f.isUnique = true := by
  rw [UniquelyIndexed, createsWith_script_iff]
  constructor
  · rintro ⟨t, ht, hindex⟩
    obtain ⟨f, hf, hsupported, hunique, -⟩ := mem_indexesOf_iff.1 hindex
    exact ⟨f, (field?_of_table ht column).trans hf, hsupported, hunique⟩
  · rintro ⟨f, hf, hsupported, hunique⟩
    obtain ⟨t, ht, hget⟩ := Option.bind_eq_some_iff.1 hf
    exact ⟨t, ht, mem_indexesOf_iff.2 ⟨f, hget, hsupported, hunique, .inr rfl⟩⟩

/-! ## Derived columns of a compiled schema -/

namespace Schema

variable {s : Schema} {defaults : Settings} {names : NameSource}

/-- The relations that columns of a table are derived for, as foreign keys in the order in which
they are. -/
inductive Derives (s : Schema) (joinTables : List (String × String × String)) (name : String) :
    List (String × ForeignKey) → Prop
  | declared {t : Table} (ht : s.tables.get? name = some t) :
      s.Derives joinTables name (s.tables.foreignKeys name)
  | joined {a b : String} {ra rb : Relation} (hmade : (name, a, b) ∈ joinTables)
      (ha : s.tables.JoinsTo a b ra) (hb : s.tables.JoinsTo b a rb) :
      s.Derives joinTables name [sideKey a ra, sideKey b rb]

/-- A reported join table has the columns that its sides give, and no table of its name is
declared. -/
theorem field?_of_report {name a b : String} {ra rb : Relation}
    (hreport : (name, a, b) ∈ (s.joined defaults names).reports) (ha : s.tables.JoinsTo a b ra)
    (hb : s.tables.JoinsTo b a rb) (column : String) :
    s.tables.get? name = none ∧
      (s.resolve defaults names).schema.field? name column =
        ((s.resolve defaults names).schema.options.primaryKeys.source?
          [sideKey a ra, sideKey b rb] column).map fun m => m.1.joinField m.2 := by
  obtain ⟨made, hmade⟩ := s.madeOf_joined defaults names
  obtain ⟨columns, ht, rfl⟩ := hmade.made_of_report hreport ha hb
  obtain ⟨names', hcolumns⟩ := ofSides_of_made hmade ht
  refine ⟨undeclared_of_made hmade ht, ?_⟩
  exact (field?_of_table (get?_tables_of_made hmade ht) column).trans
    (JoinColumns.get?_fields_ofSides hcolumns column)

/-- A column of a declared table is a timestamp, or declared, or made for a relation, or a key
column and nothing else. -/
theorem field?_of_declared {name : String} {t : Table} (ht : s.tables.get? name = some t)
    (defaults : Settings) (names : NameSource) (column : String) :
    (s.resolve defaults names).schema.field? name column =
      if column ∈ t.stamps (s.globals defaults) then some .timestamp
      else (t.fields.get? column).or
        ((((s.resolve defaults names).schema.options.primaryKeys.source?
          (s.tables.foreignKeys name) column).map fun m => m.1.columnField m.2).or
            ((t.settled (s.globals defaults)).keyFields.get? column)) := by
  obtain ⟨key, t', hkey, ht', hkept⟩ := kept_resolve ht defaults names
  obtain rfl := Option.some.inj ((joined_of_declared ht defaults names).2.symm.trans hkey)
  rw [field?_of_table ht', hkept.definitions, Table.definition?, KeyIndex.lookup_foreignColumns]

theorem stamps_eq_decide {name : String} {t : Table} (ht : s.tables.get? name = some t)
    (column : String) :
    s.stamps defaults name column = decide (column ∈ t.stamps (s.globals defaults)) := by
  rw [stamps, ht, Option.any_some]
  exact Bool.eq_iff_iff.2 (Table.stampedAt_iff.trans decide_eq_true_iff.symm)

theorem uniquelyIndexed_resolve_iff {tablePrefix name column : String}
    {refs : List (String × ForeignKey)} (h : s.Derives (s.joined defaults names).reports name refs)
    {fk : ForeignKey} {key : Field}
    (hsource : (s.resolve defaults names).schema.options.primaryKeys.source? refs column =
      some (fk, key))
    (hundeclared : s.field? name column = none) :
    UniquelyIndexed ((s.resolve defaults names).schema.script defaults tablePrefix)
        (Naming.physical tablePrefix name) column ↔
      s.stamps defaults name column = false ∧ key.isSupported = true ∧
        (fk.unique = true ∨ key.isUnique = true) := by
  -- Type and uniqueness of the key column are put as those of the copy, which the table has.
  rw [uniquelyIndexed_script_iff, ← Bool.or_eq_true, ← fk.isUnique_columnField key,
    ← (fk.columnField_alike key).isSupported_eq]
  cases h with
  | @declared t ht =>
      rw [field?_of_table ht] at hundeclared
      rw [stamps_eq_decide ht, field?_of_declared ht, hundeclared, hsource, Option.none_or,
        Option.map_some, Option.some_or]
      by_cases hstamp : column ∈ t.stamps (s.globals defaults)
      · rw [if_pos hstamp, decide_eq_true hstamp]
        refine iff_of_false ?_ fun hall => Bool.noConfusion hall.1
        rintro ⟨f, hf, -, hunique⟩
        obtain rfl := Option.some.inj hf
        cases hunique
      · rw [if_neg hstamp, decide_eq_false hstamp]
        simp only [Option.some.injEq, exists_eq_left', true_and]
  | joined hreport ha hb =>
      obtain ⟨hname, hfield⟩ := field?_of_report hreport ha hb column
      rw [hfield, hsource, Option.map_some, stamps, hname, Option.any_none]
      simp only [Option.some.injEq, exists_eq_left', true_and]
      exact Iff.rfl

end Schema

/-- A relation decides what its column is unless the key column is unique or has a default where the
relation does not say so itself, and a unique index of a derived column comes from the relation or
from the key column. -/
theorem compile_uniquelyIndexed_iff (c : Compiler) (s : Schema)
    (htables : s.tables.isEmpty = false) (hraw : s.isCompiled = false) :
    (∀ (keys : KeyIndex) table (fk : ForeignKey), keys.HasKey table →
      ∃ column key f, keys.referenced table fk = .ok (column, key) ∧ fk.field keys table = .ok f ∧
        (fk.Decides f ↔ (key.isUnique = true → fk.unique = true) ∧
          (key.defaultValue ≠ none → fk.defaultValue ≠ none))) ∧
      ∃ r, c.compile s = .ok r ∧
        ∀ name refs, s.Derives r.joinTables name refs → ∀ column fk key,
          r.schema.options.primaryKeys.source? refs column = some (fk, key) →
          s.field? name column = none →
          (UniquelyIndexed r.script (Naming.physical c.tablePrefix name) column ↔
            s.stamps c.defaults name column = false ∧ key.isSupported = true ∧
              (fk.unique = true ∨ key.isUnique = true)) := by
  refine ⟨fun keys table fk h => ?_, ?_⟩
  · obtain ⟨column, key, hfound, hfield⟩ := fk.field_of_hasKey h
    exact ⟨column, key, _, hfound, hfield, fk.decides_columnField_iff key⟩
  · obtain ⟨r, hr, hschema, hnotes⟩ := c.compile_of_uncompiled htables hraw
    refine ⟨r, hr, fun name refs h column fk key hsource hundeclared => ?_⟩
    rw [Compilation.joinTables_eq_reports hnotes] at h
    rw [hschema] at hsource
    rw [Compiler.script_of_compile hr, hschema]
    exact Schema.uniquelyIndexed_resolve_iff h hsource hundeclared

/-- A relation of each kind to standard keys, of which one asks for a unique column. -/
def roster : Schema :=
  ({} : Schema)
    |>.addTable "team" (({} : Table).hasMany "player" {})
    |>.addTable "locker" {}
    |>.addTable "player" ((({} : Table).belongsTo "team").hasOne "locker" { unique := some true }
      |>.hasManyToMany "sponsor" {})
    |>.addTable "sponsor" (({} : Table).hasManyToMany "player" {})

theorem compile_roster_uniquelyIndexed :
    roster.tables.isEmpty = false ∧ roster.isCompiled = false ∧
      ∃ r, ({ names := .counting } : Compiler).compile roster = .ok r ∧
        ¬ UniquelyIndexed r.script "player" "team_id" ∧
        UniquelyIndexed r.script "player" "locker_id" ∧
        ¬ UniquelyIndexed r.script "player_to_sponsor" "player_id" := by
  refine ⟨by decide, by decide, ?_⟩
  obtain ⟨-, r, hr, hall⟩ :=
    compile_uniquelyIndexed_iff { names := .counting } roster (by decide) (by decide)
  refine ⟨r, hr, ?_⟩
  obtain rfl := Except.ok.inj hr
  have hplayer := hall "player" _ (.declared rfl)
  have hjoined := hall "player_to_sponsor" _
    (.joined (a := "player") (b := "sponsor") (by decide) ⟨_, rfl, rfl⟩ ⟨_, rfl, rfl⟩)
  refine ⟨fun h => ?_, ?_, fun h => ?_⟩
  · exact absurd ((hplayer "team_id" _ _ rfl (by decide)).1 h).2.2 (by decide)
  · exact (hplayer "locker_id" _ _ rfl (by decide)).2 (by decide)
  · exact absurd ((hjoined "player_id" _ _ rfl (by decide)).1 h).2.2 (by decide)

/-- A key column that is unique and has a default, and relations that ask for neither. -/
def coded : Schema :=
  ({} : Schema)
    |>.addTable "country" ((({ options := { primaryKey := some ["code"] } } : Table).withField "code"
      { typeName := "char", defaultValue := some (.text "jp"), unique := some true }).hasMany "city"
        {} |>.hasManyToMany "route" {})
    |>.addTable "city" (({} : Table).belongsTo "country")
    |>.addTable "route" (({} : Table).hasManyToMany "country" {})

theorem compile_coded_not_decided :
    ∃ r, ({ names := .counting } : Compiler).compile coded = .ok r ∧
      coded.field? "city" "country_id" = none ∧
      coded.tables.foreignKeys "city" = [sideKey "country" {}] ∧
      (∃ f, (sideKey "country" {}).2.field r.schema.options.primaryKeys "country" = .ok f ∧
        r.schema.field? "city" "country_id" = some f ∧ f.nullable = some true ∧
        f.defaultValue = some (.text "jp") ∧ ¬ (sideKey "country" {}).2.Decides f) ∧
      UniquelyIndexed r.script "city" "country_id" ∧
      UniquelyIndexed r.script "country_to_route" "country_id" := by
  have hindexed (name column : String) {f : Field}
      (hf : (coded.resolve {} .counting).schema.field? name column = some f)
      (hsupported : f.isSupported = true) (hunique : f.isUnique = true) :
      UniquelyIndexed ((coded.resolve {} .counting).schema.script {} "")
        (Naming.physical "" name) column :=
    Schema.uniquelyIndexed_script_iff.2 ⟨f, hf, hsupported, hunique⟩
  refine ⟨_, rfl, by decide, by decide, ⟨_, rfl, rfl, rfl, rfl, fun h => ?_⟩, ?_, ?_⟩
  · exact absurd (h.unique.1 rfl) (by decide)
  · exact hindexed "city" "country_id" rfl rfl rfl
  · exact hindexed "country_to_route" "country_id" rfl rfl rfl

end SchemaDdl
