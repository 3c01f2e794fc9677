import SchemaDdl.Proofs.KeyColumns

/-!
# What becomes of a reference to a deleted row

A relation may ask that a reference be set to null when the row it refers to is
deleted. The database takes such a constraint only for a column that can hold
null, which is neither defined as not null nor part of a key. The relation
decides the first by its default and knows nothing of the second, and what it
asks for on deletion plays no part in either. So a reference can hold null where
nothing else stands in its way: its relation gives no default, its table does
not list it as a key column, and it does not stand in a join table, whose
columns are not null and in the key whatever the two sides ask for. A timestamp
that replaces the column can hold null in any case.

`compile_canHoldNull_iff` says this of every reference that is to be set to
null.
-/

namespace SchemaDdl

namespace Schema

variable {s : Schema} {defaults : Settings} {names : NameSource} {name column : String}

/-- The column is set to null when the row that it refers to is deleted. -/
def NulledOnDelete (s : Schema) (name column : String) : Prop :=
  ∃ c, s.constraint? name column = some c ∧ c.onDelete = .setNull

/-- The column is not defined as not null and is not in the key. -/
def CanHoldNull (s : Schema) (name column : String) : Prop :=
  (∃ f, s.field? name column = some f ∧ f.nullable ≠ some false) ∧ column ∉ s.keyColumns name

/-- What leaves a column open to null that is made for a relation. -/
def LeavesNull (s : Schema) (defaults : Settings) (keys : KeyIndex) (name column : String) : Prop :=
  ∃ t, s.tables.get? name = some t ∧ column ∉ t.keyNames ∧
    (column ∈ t.stamps (s.globals defaults) ∨ ∃ fk key,
      keys.source? (s.tables.foreignKeys name) column = some (fk, key) ∧ fk.defaultValue = none)

instance (s : Schema) (defaults : Settings) (keys : KeyIndex) (name column : String) :
    Decidable (s.LeavesNull defaults keys name column) :=
  decidable_of_iff ((s.tables.get? name).any fun t =>
    column ∉ t.keyNames ∧ (column ∈ t.stamps (s.globals defaults) ∨
      (keys.source? (s.tables.foreignKeys name) column).any fun m => m.1.defaultValue = none)) (by
    simp only [LeavesNull, Option.any_eq_true, decide_eq_true_eq, Prod.exists])

theorem nullable_columnField_iff {fk : ForeignKey} {key : Field} :
    (fk.columnField key).nullable ≠ some false ↔ fk.defaultValue = none := by
  show some fk.defaultValue.isNone ≠ some false ↔ _
  simp

/-- The columns of a join table are never null. -/
theorem not_canHoldNull_of_undeclared (hname : s.tables.get? name = none) :
    ¬ (s.resolve defaults names).schema.CanHoldNull name column := by
  rintro ⟨⟨f, hf, hnull⟩, -⟩
  obtain ⟨fk, key, rfl⟩ := eq_joinField_of_undeclared hname hf
  exact hnull rfl

/-- A constraint of a declared table stands beside a column that is made for a relation. -/
theorem source?_of_constraint {t : Table} (ht : s.tables.get? name = some t) {c : Constraint}
    (hc : (s.resolve defaults names).schema.constraint? name column = some c) :
    ∃ fk key, (s.resolve defaults names).schema.options.primaryKeys.source?
      (s.tables.foreignKeys name) column = some (fk, key) := by
  obtain ⟨made, hmade⟩ := s.madeOf_joined defaults names
  obtain ⟨fk, key, -, -, ⟨-, -, hfield⟩ | ⟨m, hm, rfl, -⟩⟩ := constraint?_origin hmade hc
  · rw [foreignColumns, OrderedMap.get?_ofList, KeyIndex.lookup_foreignColumns] at hfield
    obtain ⟨⟨fk', key'⟩, hsource, -⟩ := Option.map_eq_some_iff.1 hfield
    exact ⟨fk', key', hsource⟩
  · rw [undeclared_of_made hmade hm] at ht
    cases ht

theorem canHoldNull_resolve_iff {c : Constraint}
    (hc : (s.resolve defaults names).schema.constraint? name column = some c)
    (hundeclared : s.field? name column = none) :
    (s.resolve defaults names).schema.CanHoldNull name column ↔
      s.LeavesNull defaults (s.resolve defaults names).schema.options.primaryKeys name column := by
  cases ht : s.tables.get? name with
  | none =>
      refine iff_of_false (not_canHoldNull_of_undeclared ht) ?_
      rintro ⟨t, ht', -⟩
      rw [ht] at ht'
      cases ht'
  | some t =>
      obtain ⟨fk, key, hsource⟩ := source?_of_constraint ht hc
      rw [field?_of_table ht] at hundeclared
      rw [CanHoldNull, LeavesNull, keyColumns_of_declared ht, List.mem_eraseDups, and_comm,
        field?_of_declared ht, hundeclared, hsource, Option.none_or, Option.map_some,
        Option.some_or]
      simp only [ht, Option.some.injEq, exists_eq_left', Prod.mk.injEq]
      refine and_congr_right fun _ => ?_
      by_cases hstamp : column ∈ t.stamps (s.globals defaults)
      · rw [if_pos hstamp]
        exact iff_of_true ⟨_, rfl, by decide⟩ (.inl hstamp)
      · rw [if_neg hstamp]
        simp only [Option.some.injEq, exists_eq_left', nullable_columnField_iff, hstamp, false_or]
        constructor
        · exact fun hdefault => ⟨fk, key, ⟨rfl, rfl⟩, hdefault⟩
        · rintro ⟨fk', key', ⟨rfl, rfl⟩, hdefault⟩
          exact hdefault

end Schema

/-- A reference that is to be set to null, and that no declaration of its column stands in for, can
hold null exactly where its table and its relation leave the column open. -/
theorem compile_canHoldNull_iff (c : Compiler) (s : Schema) (htables : s.tables.isEmpty = false)
    (hraw : s.isCompiled = false) :
    ∃ r, c.compile s = .ok r ∧ ∀ name column,
      r.schema.NulledOnDelete name column → s.field? name column = none →
      (r.schema.CanHoldNull name column ↔
        s.LeavesNull c.defaults r.schema.options.primaryKeys name column) := by
  obtain ⟨r, hr, hschema, -⟩ := c.compile_of_uncompiled htables hraw
  refine ⟨r, hr, ?_⟩
  rw [hschema]
  rintro name column ⟨constraint, hconstraint, -⟩ hundeclared
  exact Schema.canHoldNull_resolve_iff hconstraint hundeclared

/-- References that can hold null: one without a default, and one with a default in whose place a
timestamp stands. -/
def lending : Schema :=
  ({} : Schema)
    |>.addTable "reader" (({} : Table).hasMany "loan" { cascade := .setNull })
    |>.addTable "desk" (({} : Table).hasMany "loan"
      { column := some "updated", defaultValue := some (.integer 1), cascade := .setNull })
    |>.addTable "loan" ((({} : Table).belongsTo "reader").belongsTo "desk")

theorem compile_lending_canHoldNull :
    lending.tables.isEmpty = false ∧ lending.isCompiled = false ∧
      ∃ r, ({ names := .counting } : Compiler).compile lending = .ok r ∧
        r.schema.NulledOnDelete "loan" "reader_id" ∧ lending.field? "loan" "reader_id" = none ∧
        r.schema.CanHoldNull "loan" "reader_id" ∧
        r.schema.NulledOnDelete "loan" "updated" ∧ lending.field? "loan" "updated" = none ∧
        r.schema.CanHoldNull "loan" "updated" := by
  refine ⟨by decide, by decide, ?_⟩
  obtain ⟨r, hr, hall⟩ :=
    compile_canHoldNull_iff { names := .counting } lending (by decide) (by decide)
  refine ⟨r, hr, ?_⟩
  obtain rfl := Except.ok.inj hr
  have hreader : (lending.resolve {} .counting).schema.NulledOnDelete "loan" "reader_id" :=
    ⟨_, rfl, rfl⟩
  have hdesk : (lending.resolve {} .counting).schema.NulledOnDelete "loan" "updated" :=
    ⟨_, rfl, rfl⟩
  refine ⟨hreader, by decide, ?_, hdesk, by decide, ?_⟩
  · exact (hall "loan" "reader_id" hreader (by decide)).2 (by decide)
  · exact (hall "loan" "updated" hdesk (by decide)).2 (by decide)

/-- References that are to be set to null in a join table, beside a default and in a key. -/
def cinema : Schema :=
  ({} : Schema)
    |>.addTable "film" ((({} : Table).hasManyToMany "actor" { cascade := .setNull }).hasMany "show"
      { defaultValue := some (.integer 1), cascade := .setNull })
    |>.addTable "actor" (({} : Table).hasManyToMany "film" {})
    |>.addTable "show" (({} : Table).belongsTo "film")
    |>.addTable "hall" (({} : Table).hasMany "seat" { cascade := .setNull })
    |>.addTable "seat" (({ options := { primaryKey := some ["hall_id", "no"] } } : Table).belongsTo
      "hall")

theorem compile_cinema_not_canHoldNull :
    ∃ r, ({ names := .counting } : Compiler).compile cinema = .ok r ∧
      (r.schema.NulledOnDelete "film_to_actor" "film_id" ∧
        cinema.field? "film_to_actor" "film_id" = none ∧
        ¬ r.schema.CanHoldNull "film_to_actor" "film_id") ∧
      (r.schema.NulledOnDelete "show" "film_id" ∧ cinema.field? "show" "film_id" = none ∧
        ¬ r.schema.CanHoldNull "show" "film_id") ∧
      (r.schema.NulledOnDelete "seat" "hall_id" ∧ cinema.field? "seat" "hall_id" = none ∧
        ¬ r.schema.CanHoldNull "seat" "hall_id") := by
  refine ⟨_, rfl, ⟨⟨_, rfl, rfl⟩, by decide, fun h => ?_⟩, ⟨⟨_, rfl, rfl⟩, by decide, fun h => ?_⟩,
    ⟨⟨_, rfl, rfl⟩, by decide, fun h => ?_⟩⟩
  · exact h.2 (by decide)
  · obtain ⟨f, hf, hnull⟩ := h.1
    obtain rfl := Option.some.inj hf
    exact hnull rfl
  · exact h.2 (by decide)

end SchemaDdl
