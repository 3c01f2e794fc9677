import SchemaDdl.Proofs.Resolution
import SchemaDdl.Sql.ColumnType

/-!
# What a foreign key column and its key have in common

A foreign key column is a copy of a definition in the key index, and the copy
keeps all that a column type is made of. The two ends of a constraint can
differ in type only where the merged tables no longer hold what was copied, and
there are two such places. At the near end a timestamp of the table's own may
stand under the foreign key's name. At the far end a standard key gives way to
whatever else the table has under that name: the index says that an unlisted
`id` is standard even where the table declares one, and that a listed column is
standard where the table has it only as a foreign key.

`redefinition?` is the definition that a standard key gives way to, read off
the schema as it was declared, and `compile_sameColumnType_iff` says that
nothing else comes between the two ends.
-/

namespace SchemaDdl

/-! ## Column types -/

/-- Two definitions that the database gives one type, as far as it knows either. -/
def Field.SameColumnType (a b : Field) : Prop :=
  ∀ x y, TypedField.ofField a = .ok x → TypedField.ofField b = .ok y →
    x.sqlName = y.sqlName ∧ x.length = y.length ∧ x.field.unsigned = y.field.unsigned

namespace Field

/-- All that a column type is made of. -/
structure Alike (a b : Field) : Prop where
  typeName : a.typeName = b.typeName
  length : a.length = b.length
  unsigned : a.unsigned = b.unsigned

theorem SameColumnType.refl (a : Field) : a.SameColumnType a := by
  intro x y hx hy
  obtain rfl := Except.ok.inj (hx.symm.trans hy)
  exact ⟨rfl, rfl, rfl⟩

theorem coerced_length (f : Field) : f.coerced.length = f.length := by
  rw [coerced]
  split
  · rfl
  · rfl

theorem coerced_unsigned (f : Field) :
    f.coerced.unsigned = if f.typeName = "boolean" then some true else f.unsigned := by
  rw [coerced]
  split
  · rfl
  · rfl

/-- A typed field is its name's type with the type's parts written out. -/
theorem ofField_ok_iff {f : Field} {x : TypedField} :
    TypedField.ofField f = .ok x ↔
      ∃ t, AbstractType.ofName f.typeName = .ok t ∧
        x = ⟨t, t.sqlName f.length, t.writtenLength f.length, f.coerced⟩ := by
  rw [TypedField.ofField]
  simp only [coerced_length]
  cases AbstractType.ofName f.typeName with
  | error e =>
      constructor
      · intro h
        cases h
      · rintro ⟨t, ht, -⟩
        cases ht
  | ok t =>
      constructor
      · intro h
        exact ⟨t, rfl, (Except.ok.inj h).symm⟩
      · rintro ⟨t', ht, rfl⟩
        obtain rfl := Except.ok.inj ht
        rfl

theorem Alike.ofField {a b : Field} (h : a.Alike b) {x : TypedField}
    (hx : TypedField.ofField a = .ok x) :
    ∃ y, TypedField.ofField b = .ok y ∧
      x.sqlName = y.sqlName ∧ x.length = y.length ∧ x.field.unsigned = y.field.unsigned := by
  obtain ⟨t, ht, rfl⟩ := ofField_ok_iff.1 hx
  refine ⟨_, ofField_ok_iff.2 ⟨t, h.typeName ▸ ht, rfl⟩, ?_⟩
  simp only [h.length, coerced_unsigned, h.typeName, h.unsigned, and_self]

theorem Alike.symm {a b : Field} (h : a.Alike b) : b.Alike a :=
  ⟨h.typeName.symm, h.length.symm, h.unsigned.symm⟩

theorem SameColumnType.of_alike {a b c : Field} (h : a.Alike b) (hb : b.SameColumnType c) :
    a.SameColumnType c := by
  intro x z hx hz
  obtain ⟨y, hy, hname, hlength, hunsigned⟩ := h.ofField hx
  obtain ⟨hname', hlength', hunsigned'⟩ := hb y z hy hz
  exact ⟨hname.trans hname', hlength.trans hlength', hunsigned.trans hunsigned'⟩

theorem Alike.sameColumnType_iff {a b : Field} (h : a.Alike b) (c : Field) :
    a.SameColumnType c ↔ b.SameColumnType c :=
  ⟨SameColumnType.of_alike h.symm, SameColumnType.of_alike h⟩

end Field

theorem ForeignKey.columnField_alike (fk : ForeignKey) (key : Field) :
    (fk.columnField key).Alike key := ⟨rfl, rfl, rfl⟩

theorem ForeignKey.joinField_alike (fk : ForeignKey) (key : Field) :
    (fk.joinField key).Alike key := ⟨rfl, rfl, rfl⟩

/-! ## Key columns -/

theorem lookup_map_key {α : Type _} (f : String → α) (l : List String) (k : String) :
    (l.map fun c => (c, f c)).lookup k = if k ∈ l then some (f k) else none := by
  induction l with
  | nil => rfl
  | cons c r ih =>
      by_cases h : k = c
      · subst h
        simp
      · simp [List.lookup_cons, beq_eq_false_iff_ne.2 h, ih, h]

/-- A key column is a listed column of the table, or it is standard. -/
theorem Table.eq_of_get?_keyFields {t : Table} {column : String} {key : Field}
    (h : t.keyFields.get? column = some key) :
    key = match t.options.primaryKey with
      | some _ => (t.fields.get? column).getD .standardKey
      | none => .standardKey := by
  rw [keyFields] at h
  cases hlisted : t.options.primaryKey with
  | none =>
      simp only [hlisted] at h
      rw [OrderedMap.get?_ofList] at h
      obtain ⟨-, hkey⟩ := Prod.mk.inj (List.mem_singleton.1 (mem_of_lookup h))
      exact hkey
  | some columns =>
      simp only [hlisted] at h
      rw [OrderedMap.get?_ofList, ← List.map_reverse, lookup_map_key] at h
      split at h
      · exact (Option.some.inj h).symm
      · cases h

namespace Schema

variable {s : Schema} {defaults : Settings} {names : NameSource}

/-- The constraint index has a reference from one column to another. -/
def Refers (s : Schema) (table column referenced key : String) : Prop :=
  ∃ constraints c, s.options.constraints.get? table = some constraints ∧
    constraints.get? column = some c ∧ c.referencedTable = referenced ∧ c.referencedColumn = key

/-- Whether a table that is declared gets a timestamp of that name. -/
def stamps (s : Schema) (defaults : Settings) (table column : String) : Bool :=
  (s.tables.get? table).any fun t => t.stampedAt (s.globals defaults) column

/-- What stands in the compiled table where the key index has a standard key column: a column of
the table itself if the key is not listed, and one of its foreign keys otherwise. -/
def redefinition? (s : Schema) (defaults : Settings) (names : NameSource) (table column : String) :
    Option Field :=
  s.tables.get? table >>= fun t =>
    let own := (t.settled (s.globals defaults)).fields.get? column
    let foreign := (s.foreignColumns defaults names table).get? column
    if t.options.primaryKey.isNone then own.or foreign
    else if own.isSome then none else foreign

theorem field?_resolve (s : Schema) (defaults : Settings) (names : NameSource)
    (table column : String) :
    (s.resolve defaults names).schema.field? table column =
      (s.joined defaults names).tables.get? table >>= fun t =>
        (t.fields.get? column).or (((s.foreignColumns defaults names table).get? column).or
          ((((s.joined defaults names).keys.get? table).getD {}).get? column)) := by
  rw [field?, get?_tables_resolve]
  cases (s.joined defaults names).tables.get? table with
  | none => rfl
  | some t => exact get?_mergeColumns _ _ _ _

/-- A table that was made has its key's columns and no others. -/
theorem joined_of_undeclared {table : String} (ht : s.tables.get? table = none)
    {columns : OrderedMap Field}
    (hkeys : (s.joined defaults names).keys.get? table = some columns) :
    ∃ t, (s.joined defaults names).tables.get? table = some t ∧ t.fields = columns := by
  obtain ⟨made, hmade⟩ := s.madeOf_joined defaults names
  rcases hmade.get?_keys_iff.1 hkeys with hkeyed | ⟨t, hmem, hname, rfl⟩
  · rw [keyed, KeyedTables.get?_keys_ofTables, ht] at hkeyed
    cases hkeyed
  · exact ⟨_, hmade.get?_tables_iff.2 (.inr ⟨t, hmem, hname, rfl⟩), rfl⟩

/-- The far end of a constraint: the key column as it was copied, unless it was redefined. -/
theorem field?_of_key {table column : String} {columns : OrderedMap Field} {key : Field}
    (hkeys : (s.joined defaults names).keys.get? table = some columns)
    (hkey : columns.get? column = some key) :
    (s.resolve defaults names).schema.field? table column =
        some ((s.redefinition? defaults names table column).getD key) ∧
      (s.redefinition? defaults names table column ≠ none → key = .standardKey) := by
  rw [field?_resolve, hkeys, redefinition?]
  cases ht : s.tables.get? table with
  | none =>
      obtain ⟨t, hjoined, rfl⟩ := joined_of_undeclared ht hkeys
      rw [hjoined]
      exact ⟨by simp [hkey], fun h => absurd rfl h⟩
  | some t =>
      obtain ⟨hjoined, hcolumns⟩ := joined_of_declared ht defaults names
      obtain rfl := Option.some.inj (hkeys.symm.trans hcolumns)
      have hdefinition := Table.eq_of_get?_keyFields hkey
      rw [Table.settled_primaryKey] at hdefinition
      rw [hjoined]
      simp only [Option.bind_eq_bind, Option.bind_some, Option.getD_some, hkey]
      cases hlisted : t.options.primaryKey with
      | none =>
          rw [hlisted] at hdefinition
          rw [Option.isNone_none, if_pos rfl, ← Option.or_assoc, Option.or_some]
          exact ⟨rfl, fun _ => hdefinition⟩
      | some listed =>
          rw [hlisted] at hdefinition
          rw [Option.isNone_some, if_neg Bool.false_ne_true]
          cases hown : (t.settled (s.globals defaults)).fields.get? column with
          | some own =>
              simp only [hown, Option.getD_some] at hdefinition
              rw [hdefinition]
              exact ⟨rfl, fun h => absurd rfl h⟩
          | none =>
              simp only [hown, Option.getD_none] at hdefinition
              rw [Option.or_some]
              exact ⟨rfl, fun _ => hdefinition⟩

/-- The near end of a constraint: a copy of the key column, unless a timestamp stands there. -/
theorem field?_of_reference {table column referenced key : String}
    (h : (s.resolve defaults names).schema.Refers table column referenced key)
    (hundeclared : s.field? table column = none) :
    ∃ columns definition copy, (s.joined defaults names).keys.get? referenced = some columns ∧
      columns.get? key = some definition ∧ copy.Alike definition ∧
      (s.resolve defaults names).schema.field? table column =
        some (if s.stamps defaults table column then .timestamp else copy) := by
  obtain ⟨constraints, c, hconstraints, hc, rfl, rfl⟩ := h
  obtain ⟨made, hmade⟩ := s.madeOf_joined defaults names
  obtain ⟨-, ⟨t, ht, hmatched⟩ | ⟨t, ht, rfl, hmatched⟩⟩ := constraints_origin hmade hconstraints
  · obtain ⟨fk, definition, hfrom, -, hfield⟩ := hmatched column c hc
    obtain ⟨columns, hcolumns, hdefinition⟩ := KeyIndex.referenced_ok hfrom.referenced
    refine ⟨columns, definition, _, hcolumns, hdefinition, fk.columnField_alike definition, ?_⟩
    rw [field?, ht] at hundeclared
    rw [field?_resolve, (joined_of_declared ht defaults names).1, stamps, ht, hfield]
    simp only [Option.bind_eq_bind, Option.bind_some] at hundeclared ⊢
    rw [Table.get?_fields_settled, hundeclared, Option.any_some]
    split
    · rfl
    · rfl
  · obtain ⟨fk, definition, hfrom, -, hfield⟩ := hmatched column c hc
    obtain ⟨columns, hcolumns, hdefinition⟩ := KeyIndex.referenced_ok hfrom.referenced
    refine ⟨columns, definition, _, hcolumns, hdefinition, fk.joinField_alike definition, ?_⟩
    rw [field?_resolve, hmade.get?_tables_iff.2 (.inr ⟨t, ht, rfl, rfl⟩), stamps,
      undeclared_of_made hmade ht]
    simp only [Option.bind_eq_bind, Option.bind_some, JoinColumns.table, hfield, Option.some_or,
      Option.any_none, Bool.false_eq_true, if_false]

theorem sameColumnType_resolve {table column referenced key : String}
    (h : (s.resolve defaults names).schema.Refers table column referenced key)
    (hundeclared : s.field? table column = none) :
    ∃ near far, (s.resolve defaults names).schema.field? table column = some near ∧
      (s.resolve defaults names).schema.field? referenced key = some far ∧
      (near.SameColumnType far ↔
        if s.stamps defaults table column then Field.timestamp.SameColumnType far
        else ∀ d, s.redefinition? defaults names referenced key = some d →
          Field.standardKey.SameColumnType d) := by
  obtain ⟨columns, definition, copy, hcolumns, hdefinition, halike, hnear⟩ :=
    field?_of_reference h hundeclared
  obtain ⟨hfar, hstandard⟩ := field?_of_key hcolumns hdefinition
  refine ⟨_, _, hnear, hfar, ?_⟩
  split
  · exact Iff.rfl
  · rw [halike.sameColumnType_iff]
    cases hredefined : s.redefinition? defaults names referenced key with
    | none =>
        exact iff_of_true (Field.SameColumnType.refl definition) fun d hd => by cases hd
    | some d =>
        rw [hstandard (by rw [hredefined]; exact Option.some_ne_none d), Option.getD_some]
        exact ⟨fun hsame d' hd' => Option.some.inj hd' ▸ hsame, fun hsame => hsame d rfl⟩

end Schema

/-- The column of a constraint that its table does not declare is of one type with the key column
that it refers to exactly if neither end was replaced by a definition of another type: the near
one by a timestamp, the far one, where it was standard, by a declared or a foreign key column. -/
theorem compile_sameColumnType_iff (c : Compiler) (s : Schema)
    (htables : s.tables.isEmpty = false) (hraw : s.isCompiled = false) :
    ∃ r, c.compile s = .ok r ∧ ∀ table column referenced key,
      r.schema.Refers table column referenced key → s.field? table column = none →
      ∃ near far, r.schema.field? table column = some near ∧
        r.schema.field? referenced key = some far ∧
        (near.SameColumnType far ↔
          if s.stamps c.defaults table column then Field.timestamp.SameColumnType far
          else ∀ d, s.redefinition? c.defaults c.names referenced key = some d →
            Field.standardKey.SameColumnType d) := by
  obtain ⟨r, hr, hschema, -⟩ := c.compile_of_uncompiled htables hraw
  refine ⟨r, hr, fun table column referenced key h hundeclared => ?_⟩
  rw [hschema] at h ⊢
  exact Schema.sameColumnType_resolve h hundeclared

/-- A table that declares its `id` itself, and one that refers to it. -/
def bigKey : Schema :=
  ({ options := { settings := { timestamps := some false } } } : Schema)
    |>.addTable "user" ((({} : Table).withField "id" { typeName := "bigint" }).hasMany "post" {})
    |>.addTable "post" (({} : Table).belongsTo "user")

/-- The key was standard and is replaced by a wider column, so the types differ. -/
theorem compile_bigKey_sameColumnType_iff :
    bigKey.tables.isEmpty = false ∧ bigKey.isCompiled = false ∧
      bigKey.field? "post" "user_id" = none ∧ bigKey.stamps {} "post" "user_id" = false ∧
      bigKey.redefinition? {} .counting "user" "id" = some { typeName := "bigint" } ∧
      ¬ Field.standardKey.SameColumnType { typeName := "bigint" } ∧
      ∃ r, ({ names := .counting } : Compiler).compile bigKey = .ok r ∧
        r.schema.Refers "post" "user_id" "user" "id" ∧
        ∃ near far, r.schema.field? "post" "user_id" = some near ∧
          r.schema.field? "user" "id" = some far ∧ ¬ near.SameColumnType far := by
  have hplain : bigKey.stamps {} "post" "user_id" = false := by decide
  have hwider : bigKey.redefinition? {} .counting "user" "id" = some { typeName := "bigint" } := rfl
  have hdiffers : ¬ Field.standardKey.SameColumnType { typeName := "bigint" } := by
    intro h
    have hname : "INT" = "BIGINT" := (h _ _ rfl rfl).1
    exact absurd hname (by decide)
  obtain ⟨r, hr, h⟩ :=
    compile_sameColumnType_iff { names := .counting } bigKey (by decide) (by decide)
  have hrefers : r.schema.Refers "post" "user_id" "user" "id" := by
    obtain rfl := Except.ok.inj hr
    exact ⟨_, _, rfl, rfl, rfl, rfl⟩
  obtain ⟨near, far, hnear, hfar, hiff⟩ := h "post" "user_id" "user" "id" hrefers (by decide)
  refine ⟨by decide, by decide, by decide, hplain, hwider, hdiffers, r, hr, hrefers, near, far,
    hnear, hfar, fun hsame => ?_⟩
  have hright := hiff.1 hsame
  rw [hplain, if_neg Bool.false_ne_true] at hright
  exact hdiffers (hright _ hwider)

theorem compile_bigKey_not_sameColumnType :
    bigKey.field? "post" "user_id" = none ∧
      ∃ r, ({ names := .counting } : Compiler).compile bigKey = .ok r ∧
        r.schema.Refers "post" "user_id" "user" "id" ∧
        ∃ near far, r.schema.field? "post" "user_id" = some near ∧
          r.schema.field? "user" "id" = some far ∧ ¬ near.SameColumnType far := by
  refine ⟨by decide, _, rfl, ⟨_, _, rfl, rfl, rfl, rfl⟩, _, _, rfl, rfl, fun h => ?_⟩
  have hname : "INT" = "BIGINT" := (h _ _ rfl rfl).1
  exact absurd hname (by decide)

end SchemaDdl
