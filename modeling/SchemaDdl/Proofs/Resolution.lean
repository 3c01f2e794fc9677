import SchemaDdl.Compile.Compiler
import SchemaDdl.Proofs.JoinTables

/-!
# The resolved schema, table by table

Resolving threads a source of names through three passes and rewrites the
tables in the last one. Here the result is read off without the threading: a
table of the resolved schema is a keyed table or a join table with its columns
merged from its key, its foreign keys and its own columns, in this order, and
every one of the three is a function of the schema. Only the names of
constraints depend on the source.

The relations never change on the way. Settling a table touches its options
and its columns, and a join table has no relations, so the foreign keys of a
table can be read off the schema as it was declared.

Of the constraints it is enough to know where each comes from: the constraints
of a table are those of its foreign keys or those of a join table, never both,
and in either case they are `Matched` with columns that the table has.
-/

namespace SchemaDdl

/-! ## Settled tables and their keys -/

namespace Table

theorem withTimestamps_fields (t : Table) :
    t.withTimestamps.fields = t.fields.insertAll (timestampColumns.map (·, .timestamp)) := rfl

/-- Whether the column is one of the timestamps that settling stores. -/
def stampedAt (globals : Settings) (t : Table) (column : String) : Bool :=
  (t.options.onto globals).timestamps && column ∈ timestampColumns

theorem get?_fields_settled (globals : Settings) (t : Table) (column : String) :
    (t.settled globals).fields.get? column =
      if t.stampedAt globals column then some .timestamp else t.fields.get? column := by
  rw [settled, stampedAt]
  cases (t.options.onto globals).timestamps with
  | false => rfl
  | true =>
      rw [if_pos rfl, withTimestamps_fields, OrderedMap.get?_insertAll_const, Bool.true_and]
      simp only [decide_eq_true_eq]

@[simp] theorem settled_primaryKey (globals : Settings) (t : Table) :
    (t.settled globals).options.primaryKey = t.options.primaryKey := by
  rw [settled]
  split
  · rfl
  · rfl

@[simp] theorem settled_manyToOne (globals : Settings) (t : Table) :
    (t.settled globals).manyToOne = t.manyToOne := by
  rw [settled]
  split
  · rfl
  · rfl

@[simp] theorem settled_oneToMany (globals : Settings) (t : Table) :
    (t.settled globals).oneToMany = t.oneToMany := by
  rw [settled]
  split
  · rfl
  · rfl

@[simp] theorem settled_oneToOne (globals : Settings) (t : Table) :
    (t.settled globals).oneToOne = t.oneToOne := by
  rw [settled]
  split
  · rfl
  · rfl

@[simp] theorem settled_manyToMany (globals : Settings) (t : Table) :
    (t.settled globals).manyToMany = t.manyToMany := by
  rw [settled]
  split
  · rfl
  · rfl

/-- A table has a key unless it asks for none. -/
theorem keyFields_isEmpty_iff (t : Table) :
    t.keyFields.isEmpty = true ↔ t.options.primaryKey = some [] := by
  rw [keyFields, OrderedMap.isEmpty_iff]
  cases t.options.primaryKey with
  | none => simp [OrderedMap.ofList, OrderedMap.insertAll_cons]
  | some columns =>
      cases columns with
      | nil => simp [OrderedMap.ofList]
      | cons column r =>
          refine iff_of_false (fun h => ?_) (by simp)
          have hmem : column ∈ (OrderedMap.ofList (List.map
              (fun c => (c, (t.fields.get? c).getD Field.standardKey)) (column :: r))).keys :=
            OrderedMap.mem_keys_ofList.2 (by simp)
          rw [h] at hmem
          cases hmem

end Table

namespace KeyedTables

variable {globals : Settings} {ts : Tables}

theorem get?_tables_ofTables (globals : Settings) (ts : Tables) (name : String) :
    (ofTables globals ts).tables.get? name = (ts.get? name).map (Table.settled globals) :=
  OrderedMap.get?_map _ ts name

theorem get?_keys_ofTables (globals : Settings) (ts : Tables) (name : String) :
    (ofTables globals ts).keys.get? name =
      ((ts.get? name).map (Table.settled globals)).map Table.keyFields := by
  rw [← get?_tables_ofTables]
  exact OrderedMap.get?_map _ _ name

theorem keys_tables_ofTables (globals : Settings) (ts : Tables) :
    (ofTables globals ts).tables.keys = ts.keys := OrderedMap.keys_map _ ts

theorem complete_ofTables (globals : Settings) (ts : Tables) : (ofTables globals ts).Complete :=
  OrderedMap.keys_map _ _

end KeyedTables

/-! ## Foreign keys are declared ones -/

theorem Tables.foreignKeys_congr {ts ts' : Tables} {name : String} {t t' : Table}
    (ht : ts.get? name = some t) (ht' : ts'.get? name = some t')
    (hmany : t'.manyToOne = t.manyToOne) (hone : t'.oneToOne = t.oneToOne)
    (hconverse : ∀ other, ts'.converse? name other = ts.converse? name other) :
    ts'.foreignKeys name = ts.foreignKeys name := by
  simp only [Tables.foreignKeys, ht, ht', manyToOneKeys, oneToOneKeys, hmany, hone, hconverse]

theorem KeyedTables.foreignKeys_ofTables (globals : Settings) (ts : Tables) (name : String) :
    (ofTables globals ts).tables.foreignKeys name = ts.foreignKeys name := by
  cases ht : ts.get? name with
  | none =>
      rw [Tables.foreignKeys, Tables.foreignKeys, get?_tables_ofTables, ht]
      rfl
  | some t =>
      have ht' : (ofTables globals ts).tables.get? name = some (t.settled globals) := by
        rw [get?_tables_ofTables, ht]
        rfl
      refine Tables.foreignKeys_congr ht ht' (t.settled_manyToOne globals)
        (t.settled_oneToOne globals) fun other => ?_
      rw [Tables.converse?, Tables.converse?, get?_tables_ofTables]
      cases ts.get? other with
      | none => rfl
      | some t'' =>
          show (t''.settled globals).oneToMany.get? name = t''.oneToMany.get? name
          rw [Table.settled_oneToMany]

namespace JoinedTables.MadeOf

variable {globals : Settings} {k : KeyedTables} {j : JoinedTables} {made : List JoinTable}

theorem get?_tables_of_keyed (h : MadeOf globals k j made) {name : String} {t : Table}
    (ht : k.tables.get? name = some t) : j.tables.get? name = some t :=
  h.get?_tables_iff.2 (.inl ht)

theorem converse?_eq (h : MadeOf globals k j made) (name other : String) :
    j.tables.converse? name other = k.tables.converse? name other := by
  rw [Tables.converse?, Tables.converse?]
  cases hk : k.tables.get? other with
  | some t => rw [h.get?_tables_of_keyed hk]
  | none =>
      cases hj : j.tables.get? other with
      | none => rfl
      | some t =>
          rcases h.get?_tables_iff.1 hj with ht | ⟨t', -, -, rfl⟩
          · rw [hk] at ht
            cases ht
          · rfl

theorem foreignKeys_eq (h : MadeOf globals k j made) (name : String) :
    j.tables.foreignKeys name = k.tables.foreignKeys name := by
  cases hk : k.tables.get? name with
  | some t =>
      exact Tables.foreignKeys_congr hk (h.get?_tables_of_keyed hk) rfl rfl (h.converse?_eq name)
  | none =>
      cases hj : j.tables.get? name with
      | none => rw [Tables.foreignKeys, Tables.foreignKeys, hk, hj]
      | some t =>
          rcases h.get?_tables_iff.1 hj with ht | ⟨t', -, -, rfl⟩
          · rw [hk] at ht
            cases ht
          · rw [Tables.foreignKeys, Tables.foreignKeys, hk, hj]
            rfl

end JoinedTables.MadeOf

/-! ## Gathering table after table -/

/-- What is gathered for a table, with some names left of the source. -/
def GatheredKeys.GatheredFor (globals : Settings) (j : JoinedTables) (e : String × Table)
    (g : GatheredKeys) : Prop :=
  ∃ names, g = ofTable j.tables j.keys (e.2.options.settings.constraints.getD globals.constraints)
    names e.1

namespace ResolvedKeys

variable {globals : Settings} {j : JoinedTables}

theorem foreign_foldl_add (globals : Settings) (j : JoinedTables) (l : List (String × Table))
    (r : ResolvedKeys) :
    ∃ more, (l.foldl (add j globals) r).foreign = r.foreign ++ more ∧
      List.Forall₂ (fun e f => f.1 = e.1 ∧ f.2.GatheredFor globals j e) l more := by
  induction l generalizing r with
  | nil => exact ⟨[], (List.append_nil _).symm, .nil⟩
  | cons e l ih =>
      obtain ⟨more, hmore, hall⟩ := ih (add j globals r e)
      refine ⟨(e.1, _) :: more, ?_, .cons ⟨rfl, ⟨r.names, rfl⟩⟩ hall⟩
      rw [List.foldl_cons, hmore, add, List.append_assoc]
      rfl

theorem foreign_ofJoined (globals : Settings) (j : JoinedTables) :
    List.Forall₂ (fun e f => f.1 = e.1 ∧ f.2.GatheredFor globals j e) j.tables.entries
      (ofJoined globals j).foreign := by
  obtain ⟨more, hmore, hall⟩ := foreign_foldl_add globals j j.tables.entries { names := j.names }
  rw [ofJoined, hmore]
  exact hall

theorem lookup_of_forall₂ {l : List (String × Table)} {more : List (String × GatheredKeys)}
    (h : List.Forall₂ (fun e f => f.1 = e.1 ∧ f.2.GatheredFor globals j e) l more)
    (name : String) :
    match l.lookup name with
    | some t => ∃ g, more.lookup name = some g ∧ g.GatheredFor globals j (name, t)
    | none => more.lookup name = none := by
  induction h with
  | nil => rfl
  | @cons e f l more hef _ ih =>
      obtain ⟨name', t⟩ := e
      obtain ⟨name'', g⟩ := f
      obtain ⟨rfl, hg⟩ := hef
      by_cases hname : name = name''
      · subst hname
        rw [List.lookup_cons_self]
        exact ⟨g, List.lookup_cons_self, hg⟩
      · rw [List.lookup_cons, List.lookup_cons, beq_eq_false_iff_ne.2 hname]
        exact ih

theorem lookup_foreign_of_table (globals : Settings) {name : String} {t : Table}
    (ht : j.tables.get? name = some t) :
    ∃ g, (ofJoined globals j).foreign.lookup name = some g ∧ g.GatheredFor globals j (name, t) := by
  have h := lookup_of_forall₂ (foreign_ofJoined globals j) name
  rw [show j.tables.entries.lookup name = some t from ht] at h
  exact h

theorem lookup_foreign_of_not_table {name : String} (ht : j.tables.get? name = none) :
    (ofJoined globals j).foreign.lookup name = none := by
  have h := lookup_of_forall₂ (foreign_ofJoined globals j) name
  rw [show j.tables.entries.lookup name = none from ht] at h
  exact h

theorem nodup_foreign (globals : Settings) (j : JoinedTables) :
    ((ofJoined globals j).foreign.map Prod.fst).Nodup := by
  have h : (ofJoined globals j).foreign.map Prod.fst = j.tables.entries.map Prod.fst := by
    refine (List.forall₂_iff_get.1 (foreign_ofJoined globals j)).elim fun hlen hget => ?_
    refine List.ext_getElem (by simp [hlen]) fun i h₁ h₂ => ?_
    simpa using (hget i (by simpa using h₂) (by simpa using h₁)).1
  rw [h]
  exact j.tables.nodup

/-- The foreign key columns of a table depend on its foreign keys and the key index alone. -/
theorem fields_ofJoined (globals : Settings) (j : JoinedTables) (name : String) :
    (ofJoined globals j).fields name =
      .ofList (j.keys.foreignColumns (j.tables.foreignKeys name)) := by
  rw [fields]
  cases ht : j.tables.get? name with
  | some t =>
      obtain ⟨g, hg, names, rfl⟩ := lookup_foreign_of_table globals ht
      rw [hg]
      exact GatheredKeys.fields_ofTable _ _ _ _ _
  | none =>
      rw [lookup_foreign_of_not_table ht, Tables.foreignKeys, ht]
      rfl

/-- The constraints of one table added to those of the join tables. -/
def addTo (index : ConstraintIndex) (e : String × GatheredKeys) : ConstraintIndex :=
  if e.2.constraints.isEmpty then index
  else index.insert e.1 (((index.get? e.1).getD {}).extend e.2.constraints)

theorem get?_addTo_self (index : ConstraintIndex) (e : String × GatheredKeys) :
    (addTo index e).get? e.1 =
      if e.2.constraints.isEmpty then index.get? e.1
      else some (((index.get? e.1).getD {}).extend e.2.constraints) := by
  rw [addTo]
  split
  · rfl
  · rw [OrderedMap.get?_insert, if_pos rfl]

theorem get?_addTo_of_ne (index : ConstraintIndex) {e : String × GatheredKeys} {name : String}
    (h : name ≠ e.1) : (addTo index e).get? name = index.get? name := by
  rw [addTo]
  split
  · rfl
  · rw [OrderedMap.get?_insert, if_neg h]

theorem get?_foldl_addTo {l : List (String × GatheredKeys)} (hl : (l.map Prod.fst).Nodup)
    (index : ConstraintIndex) (name : String) :
    (l.foldl addTo index).get? name =
      match l.lookup name with
      | some g =>
        if g.constraints.isEmpty then index.get? name
        else some (((index.get? name).getD {}).extend g.constraints)
      | none => index.get? name := by
  induction l generalizing index with
  | nil => rfl
  | cons e r ih =>
      rw [List.map_cons, List.nodup_cons] at hl
      rw [List.foldl_cons, ih hl.2]
      by_cases hname : name = e.1
      · subst hname
        rw [lookup_eq_none_iff_notMem.2 hl.1, List.lookup_cons_self]
        exact get?_addTo_self index e
      · rw [List.lookup_cons, beq_eq_false_iff_ne.2 hname, get?_addTo_of_ne index hname]

theorem get?_constraints (globals : Settings) (j : JoinedTables) (index : ConstraintIndex)
    (name : String) :
    ((ofJoined globals j).constraints index).get? name =
      match (ofJoined globals j).foreign.lookup name with
      | some g =>
        if g.constraints.isEmpty then index.get? name
        else some (((index.get? name).getD {}).extend g.constraints)
      | none => index.get? name :=
  get?_foldl_addTo (nodup_foreign globals j) index name

end ResolvedKeys

/-- The constraint of a column. -/
def ConstraintIndex.constraint? (i : ConstraintIndex) (name column : String) : Option Constraint :=
  i.get? name >>= fun constraints => constraints.get? column

/-! ## The result -/

theorem get?_mergeColumns (key : Option (OrderedMap Field)) (foreign declared : OrderedMap Field)
    (column : String) :
    (mergeColumns key foreign declared).get? column =
      (declared.get? column).or ((foreign.get? column).or ((key.getD {}).get? column)) := by
  rw [mergeColumns, OrderedMap.get?_extend, OrderedMap.get?_extend]

theorem mem_keys_mergeColumns {key : Option (OrderedMap Field)}
    {foreign declared : OrderedMap Field} {column : String} :
    column ∈ (mergeColumns key foreign declared).keys ↔
      (column ∈ (key.getD {}).keys ∨ column ∈ foreign.keys) ∨ column ∈ declared.keys := by
  rw [mergeColumns, OrderedMap.mem_keys_extend, OrderedMap.mem_keys_extend]

namespace Schema

variable {s : Schema} {defaults : Settings} {names : NameSource}

def keyed (s : Schema) (defaults : Settings) : KeyedTables :=
  .ofTables (s.globals defaults) s.tables

def joined (s : Schema) (defaults : Settings) (names : NameSource) : JoinedTables :=
  .ofKeyed (s.globals defaults) names (s.keyed defaults)

/-- The foreign key columns of a table. -/
def foreignColumns (s : Schema) (defaults : Settings) (names : NameSource) (name : String) :
    OrderedMap Field :=
  .ofList ((s.joined defaults names).keys.foreignColumns (s.tables.foreignKeys name))

theorem madeOf_joined (s : Schema) (defaults : Settings) (names : NameSource) :
    ∃ made, (s.joined defaults names).MadeOf (s.globals defaults) (s.keyed defaults) made :=
  JoinedTables.madeOf_ofKeyed (KeyedTables.complete_ofTables _ _) _ _

theorem get?_tables_keyed (s : Schema) (defaults : Settings) (name : String) :
    (s.keyed defaults).tables.get? name =
      (s.tables.get? name).map (Table.settled (s.globals defaults)) :=
  KeyedTables.get?_tables_ofTables _ _ _

theorem foreignKeys_joined (s : Schema) (defaults : Settings) (names : NameSource)
    (name : String) :
    (s.joined defaults names).tables.foreignKeys name = s.tables.foreignKeys name := by
  obtain ⟨made, hmade⟩ := s.madeOf_joined defaults names
  rw [hmade.foreignKeys_eq]
  exact KeyedTables.foreignKeys_ofTables _ _ _

theorem joined_of_declared {table : String} {t : Table} (ht : s.tables.get? table = some t)
    (defaults : Settings) (names : NameSource) :
    (s.joined defaults names).tables.get? table = some (t.settled (s.globals defaults)) ∧
      (s.joined defaults names).keys.get? table =
        some (t.settled (s.globals defaults)).keyFields := by
  obtain ⟨made, hmade⟩ := s.madeOf_joined defaults names
  have hkeyed : (s.keyed defaults).tables.get? table = some (t.settled (s.globals defaults)) := by
    rw [get?_tables_keyed, ht]
    rfl
  refine ⟨hmade.get?_tables_of_keyed hkeyed, ?_⟩
  rw [hmade.get?_keys_of_keyed (KeyedTables.complete_ofTables _ _)
    (OrderedMap.mem_keys_of_get? hkeyed), keyed, KeyedTables.get?_keys_ofTables, ht]
  rfl

theorem primaryKeys_resolve (s : Schema) (defaults : Settings) (names : NameSource) :
    (s.resolve defaults names).schema.options.primaryKeys = (s.joined defaults names).keys := rfl

theorem keys_tables_resolve (s : Schema) (defaults : Settings) (names : NameSource) :
    (s.resolve defaults names).schema.tables.keys = (s.joined defaults names).tables.keys :=
  OrderedMap.keys_map _ _

theorem get?_tables_resolve (s : Schema) (defaults : Settings) (names : NameSource)
    (name : String) :
    (s.resolve defaults names).schema.tables.get? name =
      ((s.joined defaults names).tables.get? name).map fun t =>
        { t with
          fields := mergeColumns ((s.joined defaults names).keys.get? name)
            (s.foreignColumns defaults names name) t.fields } := by
  rw [foreignColumns, ← s.foreignKeys_joined defaults names name,
    ← ResolvedKeys.fields_ofJoined (s.globals defaults)]
  exact OrderedMap.get?_map _ _ name

/-- The foreign key columns of a table that was made are none. -/
theorem foreignColumns_of_undeclared (h : s.tables.get? name = none) :
    s.foreignColumns defaults names name = {} := by
  rw [foreignColumns, Tables.foreignKeys, h]
  rfl

/-- What is gathered for a table is matched, and only a declared table gathers anything. -/
theorem gathered_origin {name : String} {g : GatheredKeys}
    (hg : (ResolvedKeys.ofJoined (s.globals defaults)
      (s.joined defaults names)).foreign.lookup name = some g)
    (hne : g.constraints.isEmpty = false) :
    (∃ t, s.tables.get? name = some t) ∧
      Matched (s.joined defaults names).keys ForeignKey.columnField
        (s.foreignColumns defaults names name) g.constraints := by
  cases ht : (s.joined defaults names).tables.get? name with
  | none =>
      rw [ResolvedKeys.lookup_foreign_of_not_table ht] at hg
      cases hg
  | some t =>
      obtain ⟨g', hg', names', rfl⟩ := ResolvedKeys.lookup_foreign_of_table (s.globals defaults) ht
      obtain rfl := Option.some.inj (hg.symm.trans hg')
      have hmatched := (GatheredKeys.settled_ofTable (s.joined defaults names).tables
        (s.joined defaults names).keys
        (t.options.settings.constraints.getD (s.globals defaults).constraints) names' name).1
      rw [GatheredKeys.fields_ofTable, foreignKeys_joined] at hmatched
      refine ⟨?_, hmatched⟩
      cases hs : s.tables.get? name with
      | some t' => exact ⟨t', rfl⟩
      | none =>
          obtain ⟨column, c, hc⟩ := OrderedMap.isEmpty_eq_false_iff.1 hne
          obtain ⟨fk, key, -, -, hfield⟩ := hmatched column c hc
          rw [show OrderedMap.ofList _ = s.foreignColumns defaults names name from rfl,
            foreignColumns_of_undeclared hs] at hfield
          cases hfield

theorem undeclared_of_made {made : List JoinTable}
    (hmade : (s.joined defaults names).MadeOf (s.globals defaults) (s.keyed defaults) made)
    {t : JoinTable} (ht : t ∈ made) : s.tables.get? t.name = none := by
  rw [OrderedMap.get?_eq_none_iff, ← KeyedTables.keys_tables_ofTables (s.globals defaults)]
  exact hmade.name_notMem ht

/-- What joining puts into the constraint index is matched in its join table. -/
theorem constraints_of_joined {made : List JoinTable}
    (hmade : (s.joined defaults names).MadeOf (s.globals defaults) (s.keyed defaults) made)
    {name : String} {constraints : OrderedMap Constraint}
    (h : (s.joined defaults names).constraints.get? name = some constraints) :
    constraints.isEmpty = false ∧ ∃ t ∈ made, t.name = name ∧
      Matched (s.joined defaults names).keys ForeignKey.joinField t.columns.fields
        constraints := by
  obtain ⟨t, ht, rfl, rfl, hne⟩ := hmade.get?_constraints_iff.1 h
  obtain ⟨names', hcolumns⟩ := (hmade.joins t ht).columns
  refine ⟨hne, t, ht, rfl, (JoinColumns.settled_ofSides hcolumns).matched.mono ?_⟩
  exact fun table columns hk => hmade.get?_keys_iff.2 (.inl hk)

/-- A declared table is no join table, so joining has no constraints for it. -/
theorem get?_constraints_joined_of_declared {name : String} {t : Table}
    (ht : s.tables.get? name = some t) (defaults : Settings) (names : NameSource) :
    (s.joined defaults names).constraints.get? name = none := by
  obtain ⟨made, hmade⟩ := s.madeOf_joined defaults names
  rw [OrderedMap.get?_eq_none_iff, OrderedMap.mem_keys_iff]
  rintro ⟨constraints, hconstraints⟩
  obtain ⟨t', ht', rfl, -⟩ := hmade.get?_constraints_iff.1 hconstraints
  rw [undeclared_of_made hmade ht'] at ht
  cases ht

/-- The constraints of a table are those of its foreign keys or those of a join table. -/
theorem constraints_origin {made : List JoinTable}
    (hmade : (s.joined defaults names).MadeOf (s.globals defaults) (s.keyed defaults) made)
    {name : String} {constraints : OrderedMap Constraint}
    (h : (s.resolve defaults names).schema.options.constraints.get? name = some constraints) :
    constraints.isEmpty = false ∧
      ((∃ t, s.tables.get? name = some t ∧
          Matched (s.joined defaults names).keys ForeignKey.columnField
            (s.foreignColumns defaults names name) constraints) ∨
        ∃ t ∈ made, t.name = name ∧
          Matched (s.joined defaults names).keys ForeignKey.joinField t.columns.fields
            constraints) := by
  have hget : ((ResolvedKeys.ofJoined (s.globals defaults) (s.joined defaults names)).constraints
      (s.joined defaults names).constraints).get? name = some constraints := h
  rw [ResolvedKeys.get?_constraints] at hget
  split at hget
  · next g hg =>
      split at hget
      · exact (constraints_of_joined hmade hget).imp id .inr
      · next hne =>
          obtain ⟨⟨t, ht⟩, hmatched⟩ := gathered_origin hg (Bool.eq_false_iff.2 hne)
          rw [get?_constraints_joined_of_declared ht, Option.getD_none,
            OrderedMap.empty_extend] at hget
          rw [← Option.some.inj hget]
          exact ⟨Bool.eq_false_iff.2 hne, .inl ⟨t, ht, hmatched⟩⟩
  · exact (constraints_of_joined hmade hget).imp id .inr

def constraint? (s : Schema) (name column : String) : Option Constraint :=
  s.options.constraints.constraint? name column

/-- A constraint is made for a foreign key, and so is the column beside it. -/
theorem constraint?_origin {made : List JoinTable}
    (hmade : (s.joined defaults names).MadeOf (s.globals defaults) (s.keyed defaults) made)
    {name column : String} {c : Constraint}
    (h : (s.resolve defaults names).schema.constraint? name column = some c) :
    ∃ fk key, c.FromKey (s.joined defaults names).keys fk key ∧ c.column = column ∧
      ((∃ t, s.tables.get? name = some t ∧
          (s.foreignColumns defaults names name).get? column = some (fk.columnField key)) ∨
        ∃ t ∈ made, t.name = name ∧ t.columns.fields.get? column = some (fk.joinField key)) := by
  obtain ⟨constraints, hconstraints, hc⟩ := Option.bind_eq_some_iff.1 h
  obtain ⟨-, ⟨t, ht, hmatched⟩ | ⟨t, ht, rfl, hmatched⟩⟩ := constraints_origin hmade hconstraints
  · obtain ⟨fk, key, hfrom, hcolumn, hfield⟩ := hmatched column c hc
    exact ⟨fk, key, hfrom, hcolumn, .inl ⟨t, ht, hfield⟩⟩
  · obtain ⟨fk, key, hfrom, hcolumn, hfield⟩ := hmatched column c hc
    exact ⟨fk, key, hfrom, hcolumn, .inr ⟨t, ht, rfl, hfield⟩⟩

end Schema

/-! ## Compiling -/

/-- A schema with tables that is not compiled yet compiles to its resolution. -/
theorem Compiler.compile_of_uncompiled (c : Compiler) {s : Schema}
    (htables : s.tables.isEmpty = false) (hraw : s.isCompiled = false) :
    ∃ r, c.compile s = .ok r ∧ r.schema = (s.resolve c.defaults c.names).schema ∧
      r.notes = (s.resolve c.defaults c.names).notes ++ r.schema.scriptNotes ++
        [.compiled r.schema.tables.size r.script.length] := by
  rw [compile, htables, hraw]
  exact ⟨_, rfl, rfl, rfl⟩

/-- The script of a compilation is the script of the schema that it returns. -/
theorem Compiler.script_of_compile {c : Compiler} {s : Schema} {r : Compilation}
    (h : c.compile s = .ok r) : r.script = r.schema.script c.defaults c.tablePrefix := by
  rw [compile] at h
  split at h
  · cases h
  · rw [← Except.ok.inj h]
    cases s.isCompiled with
    | true => rfl
    | false => rfl

/-- Of the compiler a compilation changes how far its names are used up, and nothing else. -/
theorem Compiler.compiler_of_compile {c : Compiler} {s : Schema} {r : Compilation}
    (h : c.compile s = .ok r) (hraw : s.isCompiled = false) :
    r.compiler = { c with names := (s.resolve c.defaults c.names).names } := by
  rw [compile, hraw] at h
  split at h
  · cases h
  · rw [← Except.ok.inj h]

end SchemaDdl
