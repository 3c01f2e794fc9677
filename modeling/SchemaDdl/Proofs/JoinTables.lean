import SchemaDdl.Proofs.ForeignKeys

/-!
# What joining adds

The declarations of many-to-many relations are visited one after another, and
each either changes nothing that later steps look at or adds one join table. A
`JoinTable` records such an addition: the declaration, its counterpart at the
other side, and the columns that came out. `JoinedTables.MadeOf` says that a
state is the keyed tables with the recorded join tables behind them, in the
tables, in the key index, in the constraints and in the reports alike. It
holds at the start with no records, a step appends at most one, and everything
else that is said of joining is read off the records.

Two facts make the records independent of the state in which they were made. A
join table has no relations, so the counterpart of a declaration is always
found among the tables that were there first; and it gets a new name, so the
keys of those tables never change.
-/

namespace SchemaDdl

theorem bind_eq_ok {ε α β : Type} {x : Except ε α} {f : α → Except ε β} {b : β} :
    (x >>= f) = .ok b ↔ ∃ a, x = .ok a ∧ f a = .ok b := by
  cases x with
  | error e => exact ⟨fun h => (by cases h), fun ⟨a, ha, _⟩ => (by cases ha)⟩
  | ok a => exact ⟨fun h => ⟨a, rfl, h⟩, fun ⟨_, ha, h⟩ => Except.ok.inj ha ▸ h⟩

/-! ## Columns of a join table -/

/-- A foreign key column that is also a part of the key. -/
def ForeignKey.joinField (fk : ForeignKey) (key : Field) : Field :=
  { fk.columnField key with nullable := some false }

namespace JoinColumns

variable {keys : KeyIndex} {withConstraints : Bool} {side : String × Relation}

theorem addSide_error {c : JoinColumns} {error : SchemaError}
    (h : keys.referenced side.1 (side.2.resolve side.1) = .error error) :
    addSide keys withConstraints c side = .error (error, c.names) := by
  simp only [addSide, h]

theorem addSide_ok {c : JoinColumns} {column : String} {key : Field}
    (h : keys.referenced side.1 (side.2.resolve side.1) = .ok (column, key)) :
    addSide keys withConstraints c side = .ok
      { primaryKey := c.primaryKey ++ [(side.2.resolve side.1).column]
        fields := c.fields.insert (side.2.resolve side.1).column
          ((side.2.resolve side.1).joinField key)
        constraints :=
          if withConstraints then
            c.constraints.insert (side.2.resolve side.1).column
              ((side.2.resolve side.1).constraint (c.names.name c.names.drawn) side.1 column)
          else c.constraints
        names := if withConstraints then c.names.next.2 else c.names } := by
  simp only [addSide, h]
  cases withConstraints
  · rfl
  · rfl

theorem referenced_of_addSide {c c' : JoinColumns}
    (h : addSide keys withConstraints c side = .ok c') :
    ∃ column key, keys.referenced side.1 (side.2.resolve side.1) = .ok (column, key) := by
  cases hkey : keys.referenced side.1 (side.2.resolve side.1) with
  | error error =>
      rw [addSide_error hkey] at h
      cases h
  | ok found => exact ⟨found.1, found.2, rfl⟩

/-- Sides that are all added are added one after another, each of a table with a key. -/
theorem foldlM_cons_ok {sides : List (String × Relation)} {c c' : JoinColumns}
    (h : (side :: sides).foldlM (addSide keys withConstraints) c = .ok c') :
    ∃ c₁ column key, keys.referenced side.1 (side.2.resolve side.1) = .ok (column, key) ∧
      addSide keys withConstraints c side = .ok c₁ ∧
      sides.foldlM (addSide keys withConstraints) c₁ = .ok c' := by
  rw [List.foldlM_cons] at h
  obtain ⟨c₁, hside, hrest⟩ := bind_eq_ok.1 h
  obtain ⟨column, key, hkey⟩ := referenced_of_addSide hside
  exact ⟨c₁, column, key, hkey, hside, hrest⟩

theorem addSide_congr {keys' : KeyIndex} (h : keys.get? side.1 = keys'.get? side.1)
    (c : JoinColumns) :
    addSide keys withConstraints c side = addSide keys' withConstraints c side := by
  simp only [addSide, KeyIndex.referenced_congr h]

/-- What holds of the columns before a side is added and after it. -/
structure Settled (keys : KeyIndex) (withConstraints : Bool) (c : JoinColumns) : Prop where
  matched : Matched keys ForeignKey.joinField c.fields c.constraints
  bare : withConstraints = false → c.constraints = {}
  keyed : ∀ column, column ∈ c.fields.keys ↔ column ∈ c.primaryKey

theorem Settled.addSide {c c' : JoinColumns} (h : Settled keys withConstraints c)
    (hc : addSide keys withConstraints c side = .ok c') : Settled keys withConstraints c' := by
  obtain ⟨column, key, hkey⟩ := referenced_of_addSide hc
  rw [addSide_ok hkey] at hc
  rw [← Except.ok.inj hc]
  refine ⟨?_, ?_, ?_⟩
  · cases withConstraints with
    | false =>
        rw [if_neg Bool.false_ne_true, h.bare rfl]
        exact Matched.empty
    | true => exact h.matched.insert hkey _
  · rintro rfl
    exact h.bare rfl
  · intro column'
    rw [OrderedMap.mem_keys_insert, h.keyed, List.mem_append, List.mem_singleton]

theorem settled_foldlM {sides : List (String × Relation)} {c c' : JoinColumns}
    (h : Settled keys withConstraints c)
    (hc : sides.foldlM (JoinColumns.addSide keys withConstraints) c = .ok c') :
    Settled keys withConstraints c' := by
  induction sides generalizing c with
  | nil => exact Except.ok.inj hc ▸ h
  | cons side r ih =>
      obtain ⟨c₁, column, key, -, hside, hrest⟩ := foldlM_cons_ok hc
      exact ih (h.addSide hside) hrest

theorem settled_ofSides {names : NameSource} {sides : List (String × Relation)} {c : JoinColumns}
    (hc : ofSides keys withConstraints names sides = .ok c) : Settled keys withConstraints c := by
  refine settled_foldlM ⟨Matched.empty, fun _ => rfl, fun column => ?_⟩ hc
  exact Iff.rfl

theorem primaryKey_foldlM {sides : List (String × Relation)} {c c' : JoinColumns}
    (hc : sides.foldlM (JoinColumns.addSide keys withConstraints) c = .ok c') :
    c'.primaryKey = c.primaryKey ++ sides.map fun side => (side.2.resolve side.1).column := by
  induction sides generalizing c with
  | nil =>
      rw [← Except.ok.inj hc, List.map_nil, List.append_nil]
  | cons side r ih =>
      obtain ⟨c₁, column, key, hkey, hside, hrest⟩ := foldlM_cons_ok hc
      rw [addSide_ok hkey] at hside
      rw [ih hrest, ← Except.ok.inj hside, List.map_cons, List.append_assoc]
      rfl

/-- The key of a join table is the columns of its sides in order. -/
theorem primaryKey_ofSides {names : NameSource} {sides : List (String × Relation)}
    {c : JoinColumns} (hc : ofSides keys withConstraints names sides = .ok c) :
    c.primaryKey = sides.map fun side => (side.2.resolve side.1).column :=
  primaryKey_foldlM hc

theorem keys_fields_foldlM {sides : List (String × Relation)} {c c' : JoinColumns}
    (hc : sides.foldlM (JoinColumns.addSide keys withConstraints) c = .ok c') :
    c'.fields.keys =
      (c.fields.insertAll (sides.map fun side =>
        ((side.2.resolve side.1).column, Field.standardKey))).keys := by
  induction sides generalizing c with
  | nil => rw [← Except.ok.inj hc, List.map_nil, OrderedMap.insertAll_nil]
  | cons side r ih =>
      obtain ⟨c₁, column, key, hkey, hside, hrest⟩ := foldlM_cons_ok hc
      rw [addSide_ok hkey] at hside
      rw [ih hrest, ← Except.ok.inj hside, List.map_cons, OrderedMap.insertAll_cons]
      refine OrderedMap.keys_insertAll_congr ?_ rfl
      rw [OrderedMap.keys_insert, OrderedMap.keys_insert]

/-- The columns of a join table stand in the order of its key. -/
theorem keys_fields_ofSides {names : NameSource} {sides : List (String × Relation)}
    {c : JoinColumns} (hc : ofSides keys withConstraints names sides = .ok c) {α : Type}
    (f : String → α) :
    c.fields.keys = (OrderedMap.ofList (c.primaryKey.map fun column => (column, f column))).keys := by
  rw [keys_fields_foldlM hc, primaryKey_ofSides hc, OrderedMap.ofList]
  refine OrderedMap.keys_insertAll_congr ?_ ?_
  · rfl
  · rw [List.map_map, List.map_map, List.map_map]
    rfl

theorem hasKey_of_foldlM {sides : List (String × Relation)} {c c' : JoinColumns}
    (hc : sides.foldlM (JoinColumns.addSide keys withConstraints) c = .ok c') :
    ∀ side ∈ sides, keys.HasKey side.1 := by
  induction sides generalizing c with
  | nil => exact fun side hside => by cases hside
  | cons side r ih =>
      obtain ⟨c₁, column, key, hkey, -, hrest⟩ := foldlM_cons_ok hc
      exact List.forall_mem_cons.2 ⟨KeyIndex.exists_referenced_iff.1 ⟨_, hkey⟩, ih hrest⟩

/-- Only of tables with a key a join table is made. -/
theorem hasKey_of_ofSides {names : NameSource} {sides : List (String × Relation)}
    {c : JoinColumns} (hc : ofSides keys withConstraints names sides = .ok c) :
    ∀ side ∈ sides, keys.HasKey side.1 := hasKey_of_foldlM hc

theorem foldlM_of_keys {sides : List (String × Relation)}
    (h : ∀ side ∈ sides, ∃ columns, keys.get? side.1 = some columns ∧ columns.isEmpty = false)
    (c : JoinColumns) :
    ∃ c', sides.foldlM (JoinColumns.addSide keys withConstraints) c = .ok c' := by
  induction sides generalizing c with
  | nil => exact ⟨c, rfl⟩
  | cons side r ih =>
      obtain ⟨columns, hcolumns, hne⟩ := h side List.mem_cons_self
      obtain ⟨column, key, hkey⟩ := KeyIndex.referenced_of_key hcolumns hne (side.2.resolve side.1)
      rw [List.foldlM_cons, addSide_ok hkey]
      exact ih (fun side' hside' => h side' (List.mem_cons_of_mem _ hside')) _

/-- Sides that all have a key make a join table. -/
theorem ofSides_of_keys {sides : List (String × Relation)}
    (h : ∀ side ∈ sides, ∃ columns, keys.get? side.1 = some columns ∧ columns.isEmpty = false)
    (names : NameSource) : ∃ c, ofSides keys withConstraints names sides = .ok c :=
  foldlM_of_keys h _

theorem foldlM_congr {keys' : KeyIndex} {sides : List (String × Relation)}
    (h : ∀ side ∈ sides, keys.get? side.1 = keys'.get? side.1) (c : JoinColumns) :
    sides.foldlM (JoinColumns.addSide keys withConstraints) c =
      sides.foldlM (JoinColumns.addSide keys' withConstraints) c := by
  induction sides generalizing c with
  | nil => rfl
  | cons side r ih =>
      rw [List.foldlM_cons, List.foldlM_cons, addSide_congr (h side List.mem_cons_self)]
      cases JoinColumns.addSide keys' withConstraints c side with
      | error error => rfl
      | ok c₁ => exact ih (fun side' hside' => h side' (List.mem_cons_of_mem _ hside')) c₁

theorem ofSides_congr {keys' : KeyIndex} {sides : List (String × Relation)}
    (h : ∀ side ∈ sides, keys.get? side.1 = keys'.get? side.1) (names : NameSource) :
    ofSides keys withConstraints names sides = ofSides keys' withConstraints names sides :=
  foldlM_congr h _

end JoinColumns

/-! ## One step -/

/-- A join table that was made, with the declarations that it was made from. -/
structure JoinTable where
  declaration : ManyToMany
  reciprocal : Relation
  columns : JoinColumns

namespace JoinTable

def name (t : JoinTable) : String := joinTableName t.declaration t.reciprocal

def sides (t : JoinTable) : List (String × Relation) :=
  [(t.declaration.table, t.declaration.relation), (t.declaration.other, t.reciprocal)]

end JoinTable

/-- The name and the two tables of a join table that is reported as made. -/
def Note.joinTable? : Note → Option (String × String × String)
  | .joinTable name table other => some (name, table, other)
  | _ => none

namespace JoinedTables

/-- The join tables that were made, as they were reported. -/
def reports (j : JoinedTables) : List (String × String × String) :=
  j.notes.filterMap Note.joinTable?

/-- Nothing stands in the way of a join table for the declaration. -/
structure Free (globals : Settings) (j : JoinedTables) (d : ManyToMany) (t : JoinTable) : Prop where
  declaration : t.declaration = d
  notMade : j.isMade d.table d.other = false
  reciprocal : j.reciprocal? d = some t.reciprocal
  newName : t.name ∉ j.tables.keys
  columns : JoinColumns.ofSides j.keys globals.constraints j.names t.sides = .ok t.columns

/-- The state with one more join table. -/
def adding (globals : Settings) (j : JoinedTables) (t : JoinTable) : JoinedTables where
  tables := j.tables.insert t.name (t.columns.table globals)
  keys := j.keys.insert t.name t.columns.fields
  constraints :=
    if t.columns.constraints.isEmpty then j.constraints
    else j.constraints.insert t.name t.columns.constraints
  names := t.columns.names
  notes := j.notes ++ [.joinTable t.name t.declaration.table t.declaration.other]

theorem add_of_free {globals : Settings} {j : JoinedTables} {d : ManyToMany} {t : JoinTable}
    (h : j.Free globals d t) : j.add globals d = j.adding globals t := by
  obtain ⟨declaration, reciprocal, columns⟩ := t
  obtain ⟨hd, hmade, hreciprocal, hname, hcolumns⟩ := h
  cases hd
  have hfree : j.tables.contains (joinTableName declaration reciprocal) = false :=
    Bool.eq_false_iff.2 fun hc => hname (OrderedMap.contains_iff.1 hc)
  simp only [JoinTable.sides] at hcolumns
  simp only [add, hmade, hreciprocal, hfree, make, hcolumns, Bool.false_eq_true, if_false]
  rfl

/-- A step that adds no join table leaves all that is looked at as it was. -/
structure Unchanged (j j' : JoinedTables) : Prop where
  tables : j'.tables = j.tables
  keys : j'.keys = j.keys
  constraints : j'.constraints = j.constraints
  reports : j'.reports = j.reports

theorem Unchanged.note (j : JoinedTables) (names : NameSource) {n : Note}
    (hn : n.joinTable? = none) : Unchanged j ({ j with names }.note n) := by
  refine ⟨rfl, rfl, rfl, ?_⟩
  simp only [JoinedTables.reports, JoinedTables.note, List.filterMap_append, List.filterMap_cons,
    hn, List.filterMap_nil, List.append_nil]

theorem add_of_not_free {globals : Settings} {j : JoinedTables} {d : ManyToMany}
    (h : ∀ t, ¬ j.Free globals d t) : Unchanged j (j.add globals d) := by
  rw [add]
  split
  · exact ⟨rfl, rfl, rfl, rfl⟩
  · next hmade =>
      split
      · exact Unchanged.note j j.names rfl
      · next reciprocal hreciprocal =>
          dsimp only
          split
          · exact ⟨rfl, rfl, rfl, rfl⟩
          · next hname =>
              rw [make]
              split
              · exact Unchanged.note j _ rfl
              · next c hc =>
                  refine absurd ?_ (h ⟨d, reciprocal, c⟩)
                  exact ⟨rfl, Bool.eq_false_iff.2 hmade, hreciprocal,
                    fun hmem => hname (OrderedMap.contains_iff.2 hmem), hc⟩

end JoinedTables

/-! ## Declarations -/

theorem Tables.mem_manyToMany {ts : Tables} {d : ManyToMany} :
    d ∈ ts.manyToMany ↔
      ∃ t, ts.get? d.table = some t ∧ t.manyToMany.get? d.other = some d.relation := by
  rw [Tables.manyToMany, List.mem_flatMap]
  constructor
  · rintro ⟨⟨name, t⟩, ht, hd⟩
    obtain ⟨⟨other, relation⟩, hr, rfl⟩ := List.mem_map.1 hd
    exact ⟨t, OrderedMap.mem_entries_iff.1 ht, OrderedMap.mem_entries_iff.1 hr⟩
  · rintro ⟨t, ht, hr⟩
    refine ⟨(d.table, t), OrderedMap.mem_entries_iff.2 ht,
      List.mem_map.2 ⟨(d.other, d.relation), ?_⟩⟩
    exact ⟨OrderedMap.mem_entries_iff.2 hr, rfl⟩

theorem Tables.table_of_manyToMany {ts : Tables} {d : ManyToMany} (h : d ∈ ts.manyToMany) :
    d.table ∈ ts.keys := by
  obtain ⟨t, ht, -⟩ := Tables.mem_manyToMany.1 h
  exact OrderedMap.mem_keys_of_get? ht

/-! ## A run

`Joins` is what a record says of the tables that were there first, and holds
of it for good. `MadeOf` reads a state off its records. -/

structure JoinTable.Joins (globals : Settings) (k : KeyedTables) (t : JoinTable) : Prop where
  declared : t.declaration ∈ k.tables.manyToMany
  reciprocal : ∃ other, k.tables.get? t.declaration.other = some other ∧
    other.manyToMany.get? t.declaration.table = some t.reciprocal
  columns : ∃ names, JoinColumns.ofSides k.keys globals.constraints names t.sides = .ok t.columns

/-- A state is the keyed tables and, behind them, the join tables that were made. -/
structure JoinedTables.MadeOf (globals : Settings) (k : KeyedTables) (j : JoinedTables)
    (made : List JoinTable) : Prop where
  tables : j.tables.entries =
    k.tables.entries ++ made.map fun t => (t.name, t.columns.table globals)
  keys : j.keys.entries = k.keys.entries ++ made.map fun t => (t.name, t.columns.fields)
  constraints : j.constraints.entries =
    (made.filter fun t => !t.columns.constraints.isEmpty).map fun t =>
      (t.name, t.columns.constraints)
  reports : j.reports = made.map fun t => (t.name, t.declaration.table, t.declaration.other)
  joins : ∀ t ∈ made, t.Joins globals k

/-- Every table is keyed and nothing else is. -/
def KeyedTables.Complete (k : KeyedTables) : Prop := k.keys.keys = k.tables.keys

namespace JoinedTables.MadeOf

variable {globals : Settings} {k : KeyedTables} {j : JoinedTables} {made : List JoinTable}

theorem get?_tables_iff (h : MadeOf globals k j made) {name : String} {table : Table} :
    j.tables.get? name = some table ↔
      k.tables.get? name = some table ∨
        ∃ t ∈ made, t.name = name ∧ t.columns.table globals = table := by
  rw [← OrderedMap.mem_entries_iff, ← OrderedMap.mem_entries_iff, h.tables, List.mem_append,
    List.mem_map]
  simp only [Prod.mk.injEq]

theorem get?_keys_iff (h : MadeOf globals k j made) {name : String} {columns : OrderedMap Field} :
    j.keys.get? name = some columns ↔
      k.keys.get? name = some columns ∨ ∃ t ∈ made, t.name = name ∧ t.columns.fields = columns := by
  rw [← OrderedMap.mem_entries_iff, ← OrderedMap.mem_entries_iff, h.keys, List.mem_append,
    List.mem_map]
  simp only [Prod.mk.injEq]

theorem get?_constraints_iff (h : MadeOf globals k j made) {name : String}
    {constraints : OrderedMap Constraint} :
    j.constraints.get? name = some constraints ↔
      ∃ t ∈ made, t.name = name ∧ t.columns.constraints = constraints ∧
        constraints.isEmpty = false := by
  rw [← OrderedMap.mem_entries_iff, h.constraints, List.mem_map]
  constructor
  · rintro ⟨t, ht, heq⟩
    obtain ⟨hmem, hne⟩ := List.mem_filter.1 ht
    obtain ⟨rfl, rfl⟩ := Prod.mk.inj heq
    exact ⟨t, hmem, rfl, rfl, by simpa using hne⟩
  · rintro ⟨t, ht, rfl, rfl, hne⟩
    exact ⟨t, List.mem_filter.2 ⟨ht, by simp [hne]⟩, rfl⟩

theorem keys_tables (h : MadeOf globals k j made) :
    j.tables.keys = k.tables.keys ++ made.map JoinTable.name := by
  rw [OrderedMap.keys, h.tables, List.map_append, List.map_map]
  rfl

theorem keys_keys (h : MadeOf globals k j made) (hk : k.Complete) :
    j.keys.keys = j.tables.keys := by
  rw [h.keys_tables, ← hk, OrderedMap.keys, h.keys, List.map_append, List.map_map]
  rfl

/-- A made name is not the name of a table that was there first. -/
theorem name_notMem (h : MadeOf globals k j made) {t : JoinTable} (ht : t ∈ made) :
    t.name ∉ k.tables.keys := by
  have hnodup := j.tables.nodup_keys
  rw [h.keys_tables, List.nodup_append] at hnodup
  exact fun hmem => hnodup.2.2 _ hmem _ (List.mem_map_of_mem ht) rfl

theorem get?_keys_of_keyed (h : MadeOf globals k j made) (hk : k.Complete) {name : String}
    (hname : name ∈ k.tables.keys) : j.keys.get? name = k.keys.get? name := by
  rw [← hk] at hname
  obtain ⟨columns, hcolumns⟩ := OrderedMap.mem_keys_iff.1 hname
  rw [hcolumns, h.get?_keys_iff]
  exact .inl hcolumns

/-- Join tables have no relations, so the other side of a declaration was there first. -/
theorem reciprocal?_eq_some_iff (h : MadeOf globals k j made) {d : ManyToMany} {r : Relation} :
    j.reciprocal? d = some r ↔
      ∃ other, k.tables.get? d.other = some other ∧ other.manyToMany.get? d.table = some r := by
  rw [reciprocal?, Option.bind_eq_bind, Option.bind_eq_some_iff]
  constructor
  · rintro ⟨other, hother, hr⟩
    rcases h.get?_tables_iff.1 hother with hkeyed | ⟨t, -, -, rfl⟩
    · exact ⟨other, hkeyed, hr⟩
    · cases hr
  · rintro ⟨other, hother, hr⟩
    exact ⟨other, h.get?_tables_iff.2 (.inl hother), hr⟩

theorem mem_tables_of_constrained (h : MadeOf globals k j made) {name : String}
    (hname : name ∈ j.constraints.keys) : name ∈ j.tables.keys := by
  obtain ⟨constraints, hget⟩ := OrderedMap.mem_keys_iff.1 hname
  obtain ⟨t, ht, rfl, -⟩ := h.get?_constraints_iff.1 hget
  rw [h.keys_tables]
  exact List.mem_append_right _ (List.mem_map_of_mem ht)

/-- The keys that the columns of a new join table are copied from were there first. -/
theorem joins_of_free (h : MadeOf globals k j made) (hk : k.Complete) {d : ManyToMany}
    (hd : d ∈ k.tables.manyToMany) {t : JoinTable} (ht : j.Free globals d t) :
    t.Joins globals k := by
  obtain rfl := ht.declaration
  obtain ⟨other, hother, hr⟩ := h.reciprocal?_eq_some_iff.1 ht.reciprocal
  refine ⟨hd, ⟨other, hother, hr⟩, j.names, ?_⟩
  rw [← ht.columns]
  refine JoinColumns.ofSides_congr (fun side hside => (h.get?_keys_of_keyed hk ?_).symm) _
  rcases List.mem_cons.1 hside with rfl | hside
  · exact Tables.table_of_manyToMany hd
  · rw [List.mem_singleton.1 hside]
    exact OrderedMap.mem_keys_of_get? hother

theorem adding (h : MadeOf globals k j made) (hk : k.Complete) {d : ManyToMany}
    (hd : d ∈ k.tables.manyToMany) {t : JoinTable} (ht : j.Free globals d t) :
    MadeOf globals k (j.adding globals t) (made ++ [t]) := by
  have hkeys : t.name ∉ j.keys.keys := h.keys_keys hk ▸ ht.newName
  have hconstraints : t.name ∉ j.constraints.keys :=
    fun hmem => ht.newName (h.mem_tables_of_constrained hmem)
  refine ⟨?_, ?_, ?_, ?_, ?_⟩
  · rw [JoinedTables.adding, OrderedMap.entries_insert_of_notMem ht.newName, h.tables]
    simp only [List.append_assoc, List.map_append, List.map_cons, List.map_nil]
  · rw [JoinedTables.adding, OrderedMap.entries_insert_of_notMem hkeys, h.keys]
    simp only [List.append_assoc, List.map_append, List.map_cons, List.map_nil]
  · rw [JoinedTables.adding, List.filter_append, List.map_append, ← h.constraints]
    cases hempty : t.columns.constraints.isEmpty with
    | true => simp [hempty]
    | false =>
        rw [if_neg Bool.false_ne_true, OrderedMap.entries_insert_of_notMem hconstraints]
        simp [hempty]
  · rw [JoinedTables.reports, JoinedTables.adding, List.filterMap_append, List.map_append,
      ← h.reports]
    rfl
  · intro t' ht'
    rcases List.mem_append.1 ht' with hmem | hmem
    · exact h.joins t' hmem
    · rw [List.mem_singleton.1 hmem]
      exact h.joins_of_free hk hd ht

theorem of_unchanged (h : MadeOf globals k j made) {j' : JoinedTables} (hj : Unchanged j j') :
    MadeOf globals k j' made := by
  refine ⟨?_, ?_, ?_, ?_, h.joins⟩
  · rw [hj.tables, h.tables]
  · rw [hj.keys, h.keys]
  · rw [hj.constraints, h.constraints]
  · rw [hj.reports, h.reports]

/-- A declaration adds a join table if nothing stands in its way, and else nothing. -/
theorem add (h : MadeOf globals k j made) (hk : k.Complete) {d : ManyToMany}
    (hd : d ∈ k.tables.manyToMany) :
    (∃ t, j.Free globals d t ∧ MadeOf globals k (j.add globals d) (made ++ [t])) ∨
      ((∀ t, ¬ j.Free globals d t) ∧ MadeOf globals k (j.add globals d) made) := by
  by_cases hfree : ∃ t, j.Free globals d t
  · obtain ⟨t, ht⟩ := hfree
    refine .inl ⟨t, ht, ?_⟩
    rw [add_of_free ht]
    exact h.adding hk hd ht
  · have hnot : ∀ t, ¬ j.Free globals d t := fun t ht => hfree ⟨t, ht⟩
    exact .inr ⟨hnot, h.of_unchanged (add_of_not_free hnot)⟩

theorem foldl_add (h : MadeOf globals k j made) (hk : k.Complete) {ds : List ManyToMany}
    (hds : ∀ d ∈ ds, d ∈ k.tables.manyToMany) :
    ∃ made', MadeOf globals k (ds.foldl (JoinedTables.add globals) j) made' := by
  induction ds generalizing j made with
  | nil => exact ⟨made, h⟩
  | cons d r ih =>
      have hr : ∀ d' ∈ r, d' ∈ k.tables.manyToMany :=
        fun d' hd' => hds d' (List.mem_cons_of_mem _ hd')
      rcases h.add hk (hds d List.mem_cons_self) with ⟨t, -, hadd⟩ | ⟨-, hadd⟩
      · exact ih hadd hr
      · exact ih hadd hr

theorem start (globals : Settings) (k : KeyedTables) (names : NameSource) :
    MadeOf globals k { tables := k.tables, keys := k.keys, names } [] := by
  refine ⟨?_, ?_, rfl, rfl, ?_⟩
  · exact (List.append_nil _).symm
  · exact (List.append_nil _).symm
  · intro t ht
    cases ht

end JoinedTables.MadeOf

theorem JoinedTables.madeOf_ofKeyed {k : KeyedTables} (hk : k.Complete) (globals : Settings)
    (names : NameSource) : ∃ made, (ofKeyed globals names k).MadeOf globals k made :=
  (MadeOf.start globals k names).foldl_add hk fun _ hd => hd

end SchemaDdl
