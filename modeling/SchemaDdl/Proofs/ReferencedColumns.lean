import SchemaDdl.Proofs.KeyColumns

/-!
# Whether a referenced column leads an index

A foreign key can be added only if the column that it refers to is the first of
some index of its table. The first key column always is. But a foreign key
refers to it only if the key has no column of the foreign key's own name; if it
has one, that column is the referenced one, wherever it stands in the key.
Whether the table has an index for it is decided elsewhere and for other
reasons: it has one for each column of its own relations and for each unique
column, and a join table has one for every column. A later key column that is
none of these is referred to in vain.

`compile_leads_iff` lists the ways in which a referenced column comes to its
index, and says that there are no others.
-/

namespace SchemaDdl

open Sql

/-! ## Which key column is referred to -/

/-- A foreign key refers to the key column of its name or to the first one. -/
theorem KeyIndex.referenced_cases {keys : KeyIndex} {table column : String} {fk : ForeignKey}
    {key : Field} (h : keys.referenced table fk = .ok (column, key)) :
    column = fk.column ∨
      ∃ columns, keys.get? table = some columns ∧ columns.first? = some (column, key) := by
  rw [KeyIndex.referenced] at h
  split at h
  · cases h
  · next columns hcolumns =>
      split at h
      · next field hfield =>
          obtain ⟨rfl, -⟩ := Prod.mk.inj (Except.ok.inj h)
          exact .inl rfl
      · split at h
        · next found hfound =>
            rw [Except.ok.inj h] at hfound
            exact .inr ⟨columns, hcolumns, hfound⟩
        · cases h

theorem OrderedMap.head?_keys {α : Type _} (m : OrderedMap α) :
    m.keys.head? = m.first?.map Prod.fst := List.head?_map

theorem OrderedMap.head?_eraseDups (l : List String) : l.eraseDups.head? = l.head? := by
  cases l with
  | nil => rfl
  | cons a r => rw [List.eraseDups_cons, List.head?_cons, List.head?_cons]

/-! ## Indexes that a column leads -/

/-- The script creates the table with an index whose first column is that one: the key, or an index
of its own. -/
def Sql.Leads (script : List Statement) (table column : String) : Prop :=
  CreatesWith script table fun layout => layout.primaryKey.head? = some column ∨
    ∃ i ∈ layout.indexes, i.column = column

theorem exists_index_iff {ts : Tables} {table column : String} {t : Table} :
    (∃ i ∈ indexesOf ts table t, i.column = column) ↔
      ∃ f, t.fields.get? column = some f ∧ f.isSupported = true ∧
        (isRelationColumn ts table t column = true ∨ f.isUnique = true) := by
  constructor
  · rintro ⟨i, hi, rfl⟩
    obtain ⟨f, hf, hsupported, hunique, h⟩ := mem_indexesOf_iff.1 hi
    exact ⟨f, hf, hsupported, h.imp id hunique.trans⟩
  · rintro ⟨f, hf, hsupported, h⟩
    exact ⟨⟨column, f.isUnique⟩, mem_indexesOf_iff.2 ⟨f, hf, hsupported, rfl, h⟩, rfl⟩

namespace Table

/-- The table itself has a reason to give the key column an index that it leads: it is the first,
or of a relation, or unique. -/
def Indexes (globals : Settings) (foreign : List (String × ForeignKey)) (t : Table)
    (column : String) : Prop :=
  t.keyNames.head? = some column ∨ t.isJoinTable = true ∨
    (∃ e ∈ foreign, e.2.column = column) ∨
      column ∉ t.stamps globals ∧ ∃ f, t.fields.get? column = some f ∧ f.isUnique = true

instance (globals : Settings) (foreign : List (String × ForeignKey)) (t : Table)
    (column : String) : Decidable (t.Indexes globals foreign column) :=
  decidable_of_iff (t.keyNames.head? = some column ∨ t.isJoinTable = true ∨
    (∃ e ∈ foreign, e.2.column = column) ∨
      column ∉ t.stamps globals ∧ (t.fields.get? column).any Field.isUnique = true) (by
    simp only [Indexes, Option.any_eq_true])

end Table

namespace Schema

variable {s : Schema} {defaults : Settings} {names : NameSource} {name column tablePrefix : String}
  {t t' : Table}

theorem leads_script_iff (ht : s.tables.get? name = some t) :
    Leads (s.script defaults tablePrefix) (Naming.physical tablePrefix name) column ↔
      (s.keyColumns name).head? = some column ∨
        ∃ f, s.field? name column = some f ∧ f.isSupported = true ∧
          (isRelationColumn s.tables name t column = true ∨ f.isUnique = true) := by
  rw [Leads, createsWith_script_iff, field?_of_table ht, ← exists_index_iff]
  constructor
  · rintro ⟨t', ht', h⟩
    obtain rfl := Option.some.inj (ht.symm.trans ht')
    exact h
  · exact fun h => ⟨t, ht, h⟩

/-- Whether a column is related is settled by the declaration. -/
theorem isRelationColumn_resolve (ht : s.tables.get? name = some t)
    (ht' : (s.resolve defaults names).schema.tables.get? name = some t') :
    isRelationColumn (s.resolve defaults names).schema.tables name t' column = true ↔
      t.isJoinTable = true ∨ ∃ e ∈ s.tables.foreignKeys name, e.2.column = column := by
  obtain ⟨key, t'', -, ht'', hkept⟩ := kept_resolve ht defaults names
  obtain rfl := Option.some.inj (ht'.symm.trans ht'')
  rw [isRelationColumn, foreignKeys_resolve, Table.isJoinTable, hkept.joinTable, Bool.or_eq_true,
    List.any_eq_true, Table.isJoinTable]
  simp only [decide_eq_true_eq]

/-- A column without a relation is unique only if it is declared so. -/
theorem isUnique_of_unrelated {f : Field} (ht : s.tables.get? name = some t)
    (hf : (s.resolve defaults names).schema.field? name column = some f)
    (hunrelated : ¬ ∃ e ∈ s.tables.foreignKeys name, e.2.column = column) :
    f.isUnique = true ↔ column ∉ t.stamps (s.globals defaults) ∧
      ∃ f, t.fields.get? column = some f ∧ f.isUnique = true := by
  by_cases hstamp : column ∈ t.stamps (s.globals defaults)
  · rw [field?_of_declared ht, if_pos hstamp] at hf
    obtain rfl := Option.some.inj hf
    exact iff_of_false Bool.false_ne_true fun h => h.1 hstamp
  · cases hdeclared : t.fields.get? column with
    | some declared =>
        rw [field?_of_declared ht, if_neg hstamp, hdeclared, Option.some_or] at hf
        obtain rfl := Option.some.inj hf
        simp only [hstamp, Option.some.injEq, exists_eq_left', not_false_eq_true, true_and]
    | none =>
        -- No relation makes the column, so it is a standard key column if it is one at all.
        have hsource : (s.resolve defaults names).schema.options.primaryKeys.source?
            (s.tables.foreignKeys name) column = none := by
          rw [KeyIndex.source?_eq_none_iff, KeyIndex.mem_foreignColumns_iff]
          exact fun ⟨e, he, _, hcolumn⟩ => hunrelated ⟨e, he, hcolumn⟩
        rw [field?_of_bare ht hstamp hdeclared, hsource, Option.map_none, Option.none_or] at hf
        refine iff_of_false ?_ fun ⟨_, _, hnone, _⟩ => by cases hnone
        split at hf
        · obtain rfl := Option.some.inj hf
          exact Bool.false_ne_true
        · cases hf

/-- A rendered column of a declared table leads an index exactly if the table has a reason for
one. -/
theorem leads_of_declared (ht : s.tables.get? name = some t)
    (hrenders : (s.resolve defaults names).schema.Renders name column) :
    Leads ((s.resolve defaults names).schema.script defaults tablePrefix)
        (Naming.physical tablePrefix name) column ↔
      t.Indexes (s.globals defaults) (s.tables.foreignKeys name) column := by
  obtain ⟨key, t', -, ht', -⟩ := kept_resolve ht defaults names
  obtain ⟨f, hf, hsupported⟩ := hrenders
  rw [leads_script_iff ht', keyColumns_of_declared ht, OrderedMap.head?_eraseDups,
    isRelationColumn_resolve ht ht', Table.Indexes]
  refine or_congr_right ?_
  simp only [hf, Option.some.injEq, exists_eq_left', hsupported, true_and, or_assoc]
  refine or_congr_right ?_
  -- A related column may also be unique after its key, and is indexed in either case.
  by_cases hrelated : ∃ e ∈ s.tables.foreignKeys name, e.2.column = column
  · exact iff_of_true (.inl hrelated) (.inl hrelated)
  · exact or_congr_right (isUnique_of_unrelated ht hf hrelated)

/-- Every rendered column of a join table leads an index. -/
theorem leads_of_undeclared (hname : s.tables.get? name = none)
    (hrenders : (s.resolve defaults names).schema.Renders name column) :
    Leads ((s.resolve defaults names).schema.script defaults tablePrefix)
      (Naming.physical tablePrefix name) column := by
  obtain ⟨f, hf, hsupported⟩ := hrenders
  obtain ⟨t', ht', -⟩ := Option.bind_eq_some_iff.1 hf
  refine (leads_script_iff ht').2 (.inr ⟨f, hf, hsupported, .inl ?_⟩)
  obtain ⟨made, -, m, -, rfl⟩ := exists_made_of_undeclared hname ht'
  rfl

/-- A reference goes to the key column of its own name, or to the first one. -/
theorem refers_cases {table referenced key : String}
    (h : (s.resolve defaults names).schema.Refers table column referenced key) :
    key = column ∨ ((s.resolve defaults names).schema.keyColumns referenced).head? = some key := by
  obtain ⟨constraints, c, hconstraints, hc, rfl, rfl⟩ := h
  obtain ⟨made, hmade⟩ := s.madeOf_joined defaults names
  have hfrom : ∃ fk definition, c.FromKey (s.joined defaults names).keys fk definition ∧
      c.column = column := by
    obtain ⟨-, ⟨t, ht, hmatched⟩ | ⟨t, ht, rfl, hmatched⟩⟩ := constraints_origin hmade hconstraints
    · obtain ⟨fk, definition, hfrom, hcolumn, -⟩ := hmatched column c hc
      exact ⟨fk, definition, hfrom, hcolumn⟩
    · obtain ⟨fk, definition, hfrom, hcolumn, -⟩ := hmatched column c hc
      exact ⟨fk, definition, hfrom, hcolumn⟩
  obtain ⟨fk, definition, hfrom, rfl⟩ := hfrom
  rcases KeyIndex.referenced_cases hfrom.referenced with hcolumn | ⟨columns, hcolumns, hfirst⟩
  · exact .inl (hcolumn.trans hfrom.column.symm)
  · refine .inr ?_
    rw [keyColumns, primaryKeys_resolve, hcolumns, OrderedMap.head?_keys, hfirst, Option.map_some]

theorem leads_resolve_iff {table referenced key : String}
    (hrefers : (s.resolve defaults names).schema.Refers table column referenced key)
    (hrenders : (s.resolve defaults names).schema.Renders referenced key) :
    Leads ((s.resolve defaults names).schema.script defaults tablePrefix)
        (Naming.physical tablePrefix referenced) key ↔
      ∀ t, s.tables.get? referenced = some t → key = column →
        t.Indexes (s.globals defaults) (s.tables.foreignKeys referenced) key := by
  cases ht : s.tables.get? referenced with
  | none => exact iff_of_true (leads_of_undeclared ht hrenders) fun t h => by cases h
  | some t =>
      simp only [Option.some.injEq, forall_eq']
      rw [leads_of_declared ht hrenders]
      -- If the two names differ, the reference fell back to the first key column.
      rcases refers_cases hrefers with hnamed | hfirst
      · exact (forall_prop_of_true (q := fun _ => _) hnamed).symm
      · rw [keyColumns_of_declared ht, OrderedMap.head?_eraseDups] at hfirst
        exact iff_of_true (.inl hfirst) fun _ => .inl hfirst

end Schema

/-- A column that a foreign key refers to leads an index unless the reference is by name to a later
key column that is not declared unique and belongs to no relation, and its table is no join
table. -/
theorem compile_leads_iff (c : Compiler) (s : Schema) (htables : s.tables.isEmpty = false)
    (hraw : s.isCompiled = false) :
    ∃ r, c.compile s = .ok r ∧ ∀ table column referenced key,
      r.schema.Refers table column referenced key → r.schema.Renders referenced key →
      (Leads r.script (Naming.physical c.tablePrefix referenced) key ↔
        ∀ t, s.tables.get? referenced = some t → key = column →
          t.Indexes (s.globals c.defaults) (s.tables.foreignKeys referenced) key) := by
  obtain ⟨r, hr, hschema, -⟩ := c.compile_of_uncompiled htables hraw
  refine ⟨r, hr, fun table column referenced key hrefers hrenders => ?_⟩
  rw [hschema] at hrefers hrenders
  rw [Compiler.script_of_compile hr, hschema]
  exact Schema.leads_resolve_iff hrefers hrenders

/-- A reference by name to a later key column that is a foreign key itself, one by name to a later
key column that is unique, and one that no key column has the name of. -/
def packing : Schema :=
  ({} : Schema)
    |>.addTable "product" (({} : Table).hasMany "line" {})
    |>.addTable "line" ((({ options := { primaryKey := some ["no", "product_id", "tag"] } } : Table)
      |>.withField "no" { typeName := "int" }
      |>.withField "tag" { typeName := "int", unique := some true }).belongsTo "product")
    |>.addTable "offer" (({} : Table).hasOne "line" { column := some "product_id" })
    |>.addTable "sticker" (({} : Table).hasOne "line" { column := some "tag" })
    |>.addTable "claim" (({} : Table).hasOne "line" {})

theorem compile_packing_leads :
    packing.tables.isEmpty = false ∧ packing.isCompiled = false ∧
      ∃ r, ({ names := .counting } : Compiler).compile packing = .ok r ∧
        (r.schema.Refers "offer" "product_id" "line" "product_id" ∧
          Leads r.script "line" "product_id") ∧
        (r.schema.Refers "sticker" "tag" "line" "tag" ∧ Leads r.script "line" "tag") ∧
        (r.schema.Refers "claim" "line_id" "line" "no" ∧ Leads r.script "line" "no") := by
  refine ⟨by decide, by decide, ?_⟩
  obtain ⟨r, hr, hall⟩ :=
    compile_leads_iff { names := .counting } packing (by decide) (by decide)
  refine ⟨r, hr, ?_⟩
  obtain rfl := Except.ok.inj hr
  have hoffer : (packing.resolve {} .counting).schema.Refers "offer" "product_id" "line"
      "product_id" := ⟨_, _, rfl, rfl, rfl, rfl⟩
  have hsticker : (packing.resolve {} .counting).schema.Refers "sticker" "tag" "line" "tag" :=
    ⟨_, _, rfl, rfl, rfl, rfl⟩
  have hclaim : (packing.resolve {} .counting).schema.Refers "claim" "line_id" "line" "no" :=
    ⟨_, _, rfl, rfl, rfl, rfl⟩
  have hline : ∀ t, packing.tables.get? "line" = some t → ∀ column ∈ ["product_id", "tag", "no"],
      t.Indexes (packing.globals {}) (packing.tables.foreignKeys "line") column := by
    rintro t ⟨⟩
    decide
  refine ⟨⟨hoffer, (hall _ _ _ _ hoffer ⟨_, rfl, rfl⟩).2 fun t ht _ => ?_⟩,
    ⟨hsticker, (hall _ _ _ _ hsticker ⟨_, rfl, rfl⟩).2 fun t ht _ => ?_⟩,
    ⟨hclaim, (hall _ _ _ _ hclaim ⟨_, rfl, rfl⟩).2 fun t ht _ => ?_⟩⟩
  · exact hline t ht _ (by decide)
  · exact hline t ht _ (by decide)
  · exact hline t ht _ (by decide)

/-- The second key column has the name of the foreign keys to its table. -/
def ordering : Schema :=
  ({} : Schema)
    |>.addTable "order" ((({ options := { primaryKey := some ["shop_id", "order_id"] } } : Table)
      |>.withField "shop_id" { typeName := "int" }
      |>.withField "order_id" { typeName := "int" }).hasMany "item" {})
    |>.addTable "item" (({} : Table).belongsTo "order")

theorem compile_ordering_not_leads :
    ∃ r, ({ names := .counting } : Compiler).compile ordering = .ok r ∧
      r.schema.Refers "item" "order_id" "order" "order_id" ∧
      r.schema.Renders "item" "order_id" ∧ r.schema.Renders "order" "order_id" ∧
      ¬ Leads r.script "order" "order_id" := by
  refine ⟨_, rfl, ⟨_, _, rfl, rfl, rfl, rfl⟩, ⟨_, rfl, rfl⟩, ⟨_, rfl, rfl⟩, fun h => ?_⟩
  have hleads : Leads ((ordering.resolve {} .counting).schema.script {} "")
      (Naming.physical "" "order") "order_id" := h
  rcases (Schema.leads_script_iff rfl).1 hleads with hfirst | ⟨f, hf, -, hrelated | hunique⟩
  · exact absurd hfirst (by decide)
  · exact absurd hrelated (by decide)
  · obtain rfl := Option.some.inj hf
    exact absurd hunique (by decide)

end SchemaDdl
