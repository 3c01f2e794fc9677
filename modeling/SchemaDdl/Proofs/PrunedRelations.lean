import SchemaDdl.Proofs.Resolution

/-!
# Resolving without the relations that are skipped

A relation comes to nothing if the table it names has no key, if it is a
many-to-one relation whose other end is not declared, or if it is a many-to-many
relation that is declared on one side. `Table.pruned` takes all of these out of
a table, and a schema without them is resolved to the resolved schema, again
without them (`resolve_pruned`): the same keys, columns and constraints, and as
many names drawn.

The stages are compared one by one. Settling the options of a table does not
read its relations. Joining passes over a declaration without its counterpart,
so visiting the mutual ones alone leaves a state that differs from the whole
run in its pruned tables and its notes (`JoinedTables.Mapped`); that the
counterpart is looked for among the tables as they have become by then makes no
difference, since a join table declares nothing. What is gathered for a table is
a function of those of its foreign keys that find a key, and pruning leaves just
these, in their order.

The notes are what does not survive. A skipped relation is noted, and a relation
that was taken out is not, so states are compared without their notes.
-/

namespace SchemaDdl

/-! ## Pruning -/

/-- Whether the table declares a many-to-many relation to the other. -/
def Tables.declaresTo (ts : Tables) (table other : String) : Bool :=
  (ts.get? table).any fun t => t.manyToMany.contains other

/-- Whether the other table declares a many-to-many relation back. -/
def Tables.isMutual (ts : Tables) (d : ManyToMany) : Bool := ts.declaresTo d.other d.table

theorem Tables.declaresTo_iff {ts : Tables} {table other : String} :
    ts.declaresTo table other = true ↔
      ∃ t, ts.get? table = some t ∧ ∃ r, t.manyToMany.get? other = some r := by
  simp only [declaresTo, Option.any_eq_true, OrderedMap.contains, Option.isSome_iff_exists]

namespace Table

/-- The table without the relations that are skipped: those to a table without a key,
many-to-one relations without their other end, and many-to-many relations that the other table does
not declare. -/
def pruned (ts : Tables) (keys : KeyIndex) (name : String) (t : Table) : Table :=
  { t with
    manyToOne := t.manyToOne.filter fun other =>
      (ts.converse? name other).isSome && keys.HasKey other
    oneToOne := t.oneToOne.filter fun other _ => keys.HasKey other
    manyToMany := t.manyToMany.filter fun other _ => ts.declaresTo other name }

variable (ts : Tables) (keys : KeyIndex) (name : String)

theorem settled_pruned (globals : Settings) (t : Table) :
    (t.pruned ts keys name).settled globals = (t.settled globals).pruned ts keys name := by
  rw [settled, settled]
  show (if (t.options.onto globals).timestamps then _ else _) = _
  split
  · rfl
  · rfl

/-- A join table has no relations to be skipped. -/
theorem pruned_joinTable (globals : Settings) (c : JoinColumns) :
    (c.table globals).pruned ts keys name = c.table globals := rfl

end Table

/-- The schema without the relations that are skipped under these keys. -/
def Schema.pruned (s : Schema) (keys : KeyIndex) : Schema :=
  { s with tables := s.tables.map (Table.pruned s.tables keys) }

/-! ## Foreign keys -/

theorem Tables.converse?_map {f : String → Table → Table}
    (hf : ∀ name t, (f name t).oneToMany = t.oneToMany) (ts : Tables) (table other : String) :
    Tables.converse? (ts.map f) table other = ts.converse? table other := by
  rw [converse?, converse?, OrderedMap.get?_map]
  cases ts.get? other with
  | none => rfl
  | some t =>
      show (f other t).oneToMany.get? table = t.oneToMany.get? table
      rw [hf]

/-- Pruning leaves the foreign keys that find a key, whatever else is done to the tables. -/
theorem Tables.foreignKeys_map_pruned {ts base : Tables}
    (hbase : ∀ table other, ts.converse? table other = base.converse? table other)
    (keys : KeyIndex) (name : String) :
    Tables.foreignKeys (ts.map (Table.pruned base keys)) name =
      (ts.foreignKeys name).filter fun e => keys.HasKey e.1 := by
  have hconverse := converse?_map (f := Table.pruned base keys) (fun _ _ => rfl) ts
  rw [foreignKeys, foreignKeys, OrderedMap.get?_map]
  cases ts.get? name with
  | none => rfl
  | some t =>
      have hmany : manyToOneKeys (ts.map (Table.pruned base keys)) name (t.pruned base keys name) =
          (manyToOneKeys ts name t).filter fun e => keys.HasKey e.1 := by
        simp only [manyToOneKeys, Table.pruned, hconverse, ← hbase, List.filterMap_filter,
          List.filter_filterMap]
        refine List.filterMap_congr fun other _ => ?_
        cases ts.converse? name other with
        | none => simp
        | some r =>
            by_cases hkey : keys.HasKey other
            · simp [hkey, Option.filter]
            · simp [hkey, Option.filter]
      have hone : oneToOneKeys (t.pruned base keys name) =
          (oneToOneKeys t).filter fun e => keys.HasKey e.1 := by
        rw [oneToOneKeys, oneToOneKeys, List.filter_map]
        rfl
      show manyToOneKeys _ name (t.pruned base keys name) ++
          oneToOneKeys (t.pruned base keys name) =
        (manyToOneKeys ts name t ++ oneToOneKeys t).filter _
      rw [hmany, hone, List.filter_append]

namespace KeyIndex

variable {keys : KeyIndex} {withConstraints : Bool} {l : List (String × ForeignKey)}

theorem referenced_of_not_hasKey {table : String} (h : ¬ keys.HasKey table) (fk : ForeignKey) :
    ∃ error, keys.referenced table fk = .error error := by
  cases hreferenced : keys.referenced table fk with
  | ok found => exact absurd (exists_referenced_iff.1 ⟨found, hreferenced⟩) h
  | error error => exact ⟨error, rfl⟩

/-- What is made of foreign keys that find a key only can be made of those that do. -/
theorem filterMap_filter_hasKey {β : Type} {f : String × ForeignKey → Option β}
    (hf : ∀ e, ¬ keys.HasKey e.1 → f e = none) :
    (l.filter fun e => keys.HasKey e.1).filterMap f = l.filterMap f := by
  rw [List.filterMap_filter]
  refine List.filterMap_congr fun e _ => ?_
  by_cases hkey : keys.HasKey e.1
  · rw [if_pos (decide_eq_true hkey)]
  · rw [if_neg fun h => hkey (of_decide_eq_true h), hf e hkey]

theorem foreignColumns_filter :
    keys.foreignColumns (l.filter fun e => keys.HasKey e.1) = keys.foreignColumns l := by
  refine filterMap_filter_hasKey fun e hkey => ?_
  obtain ⟨error, herror⟩ := referenced_of_not_hasKey hkey e.2
  simp only [herror]

theorem foreignConstraints_filter :
    keys.foreignConstraints withConstraints (l.filter fun e => keys.HasKey e.1) =
      keys.foreignConstraints withConstraints l := by
  refine filterMap_filter_hasKey fun e hkey => ?_
  obtain ⟨error, herror⟩ := referenced_of_not_hasKey hkey e.2
  simp only [herror]

end KeyIndex

/-! ## Join tables -/

theorem KeyedTables.ofTables_pruned (globals : Settings) (ts base : Tables) (keys : KeyIndex) :
    ofTables globals (ts.map (Table.pruned base keys)) =
      { tables := (ofTables globals ts).tables.map (Table.pruned base keys)
        keys := (ofTables globals ts).keys } := by
  have htables : OrderedMap.map (fun _ t => t.settled globals) (ts.map (Table.pruned base keys)) =
      (ts.map fun _ t => t.settled globals).map (Table.pruned base keys) := by
    simp only [OrderedMap.map_map, Table.settled_pruned]
  rw [ofTables, ofTables]
  simp only [htables, KeyedTables.mk.injEq, true_and]
  exact OrderedMap.map_map _ _ _

/-- Pruning leaves the many-to-many relations that both tables declare. -/
theorem Tables.manyToMany_map_pruned (ts base : Tables) (keys : KeyIndex) :
    Tables.manyToMany (ts.map (Table.pruned base keys)) =
      ts.manyToMany.filter base.isMutual := by
  simp only [manyToMany, OrderedMap.entries_map, List.flatMap_map, List.filter_flatMap,
    List.filter_map]
  rfl

/-- Two states that differ in their tables by `f`, and otherwise in their notes only. -/
structure JoinedTables.Mapped (f : String → Table → Table) (j j' : JoinedTables) : Prop where
  tables : j'.tables = j.tables.map f
  keys : j'.keys = j.keys
  constraints : j'.constraints = j.constraints
  names : j'.names = j.names

namespace JoinedTables.Mapped

variable {globals : Settings} {f : String → Table → Table} {j j' : JoinedTables} {d : ManyToMany}

/-- A declaration without its counterpart leaves a note at most. -/
theorem add_left (h : Mapped f j j') (hnone : j.reciprocal? d = none) :
    Mapped f (j.add globals d) j' := by
  rw [JoinedTables.add]
  split
  · exact h
  · rw [hnone]
    exact ⟨h.tables, h.keys, h.constraints, h.names⟩

theorem contains_eq (h : Mapped f j j') (name : String) :
    j'.tables.contains name = j.tables.contains name := by
  rw [h.tables, OrderedMap.contains_map]

theorem add (h : Mapped f j j')
    (hf : ∀ name c, f name (JoinColumns.table globals c) = c.table globals)
    (hreciprocal : j'.reciprocal? d = j.reciprocal? d) :
    Mapped f (j.add globals d) (j'.add globals d) := by
  rw [JoinedTables.add, JoinedTables.add, isMade, isMade, h.contains_eq, h.contains_eq, hreciprocal]
  split
  · exact h
  · cases j.reciprocal? d with
    | none => exact ⟨h.tables, h.keys, h.constraints, h.names⟩
    | some reciprocal =>
        dsimp only
        rw [h.contains_eq]
        split
        · exact h
        · rw [make, make, h.keys, h.names]
          split
          · exact ⟨h.tables, rfl, h.constraints, rfl⟩
          · refine ⟨?_, rfl, ?_, rfl⟩
            · rw [h.tables, OrderedMap.map_insert, hf]
            · rw [h.constraints]

variable {k : KeyedTables} {base : Tables} {keys : KeyIndex} {made : List JoinTable}

/-- Nothing that a declared relation is read from is pruned away. -/
theorem reciprocal?_pruned (h : Mapped (Table.pruned base keys) j j')
    (hd : base.declaresTo d.table d.other = true) : j'.reciprocal? d = j.reciprocal? d := by
  rw [reciprocal?, reciprocal?, h.tables, OrderedMap.get?_map]
  cases j.tables.get? d.other with
  | none => rfl
  | some t => exact OrderedMap.get?_filter_of_keeps (fun _ => hd) t.manyToMany

/-- Visiting the declarations that have a counterpart does what visiting all does. -/
theorem foldl_pruned (h : Mapped (Table.pruned base keys) j j') (hmade : MadeOf globals k j made)
    (hk : k.Complete)
    (hbase : ∀ table other, base.declaresTo table other = k.tables.declaresTo table other)
    {ds : List ManyToMany} (hds : ∀ d ∈ ds, d ∈ k.tables.manyToMany) :
    Mapped (Table.pruned base keys) (ds.foldl (JoinedTables.add globals) j)
      ((ds.filter base.isMutual).foldl (JoinedTables.add globals) j') := by
  induction ds generalizing j j' made with
  | nil => exact h
  | cons d r ih =>
      have hd : d ∈ k.tables.manyToMany := hds d List.mem_cons_self
      have hr : ∀ d' ∈ r, d' ∈ k.tables.manyToMany :=
        fun d' hd' => hds d' (List.mem_cons_of_mem _ hd')
      obtain ⟨made', hmade'⟩ : ∃ made', MadeOf globals k (j.add globals d) made' := by
        rcases hmade.add hk hd with ⟨t, -, hadd⟩ | ⟨-, hadd⟩
        · exact ⟨_, hadd⟩
        · exact ⟨_, hadd⟩
      by_cases hmutual : base.isMutual d = true
      · rw [List.filter_cons_of_pos hmutual]
        have hdeclared : base.declaresTo d.table d.other = true := by
          obtain ⟨t, ht, hr⟩ := Tables.mem_manyToMany.1 hd
          rw [hbase, Tables.declaresTo_iff]
          exact ⟨t, ht, _, hr⟩
        refine ih (h.add (fun _ c => Table.pruned_joinTable _ _ _ _ c) ?_) hmade' hr
        exact h.reciprocal?_pruned hdeclared
      · rw [List.filter_cons_of_neg hmutual]
        have hnone : j.reciprocal? d = none := by
          refine Option.eq_none_iff_forall_ne_some.2 fun r hr => hmutual ?_
          obtain ⟨other, hother, hr⟩ := hmade.reciprocal?_eq_some_iff.1 hr
          rw [Tables.isMutual, hbase, Tables.declaresTo_iff]
          exact ⟨other, hother, r, hr⟩
        exact ih (h.add_left hnone) hmade' hr

end JoinedTables.Mapped

/-! ## Gathering -/

/-- What was gathered, without the notes on what was skipped. -/
def GatheredKeys.silent (g : GatheredKeys) : GatheredKeys := { g with notes := [] }

theorem GatheredKeys.silent_ofTable (ts : Tables) (keys : KeyIndex) (withConstraints : Bool)
    (names : NameSource) (table : String) :
    (ofTable ts keys withConstraints names table).silent =
      { fields := .ofList (keys.foreignColumns (ts.foreignKeys table))
        constraints := .ofList
          (names.naming (keys.foreignConstraints withConstraints (ts.foreignKeys table)))
        names := names.advance
          (keys.foreignConstraints withConstraints (ts.foreignKeys table)).length } := by
  obtain ⟨hconstraints, hnames⟩ := constraints_ofTable ts keys withConstraints names table
  rw [silent, fields_ofTable, hconstraints, hnames]

namespace ResolvedKeys

def silent (r : ResolvedKeys) : ResolvedKeys :=
  { r with foreign := r.foreign.map fun e => (e.1, e.2.silent) }

theorem fields_silent (r : ResolvedKeys) : r.silent.fields = r.fields := by
  funext table
  have hlookup := lookup_map_snd (fun _ => GatheredKeys.silent) r.foreign table
  rw [fields, fields, silent, hlookup]
  cases r.foreign.lookup table with
  | none => rfl
  | some g => rfl

theorem constraints_silent (r : ResolvedKeys) : r.silent.constraints = r.constraints := by
  funext index
  rw [constraints, constraints, silent, List.foldl_map]
  rfl

variable {globals : Settings} {j j' : JoinedTables}

/-- Tables whose foreign keys come to the same gather the same. -/
theorem silent_foldl_add (f : String → Table → Table) (hkeys : j'.keys = j.keys)
    (hcolumns : ∀ name, j.keys.foreignColumns (j'.tables.foreignKeys name) =
      j.keys.foreignColumns (j.tables.foreignKeys name))
    (hconstraints : ∀ w name, j.keys.foreignConstraints w (j'.tables.foreignKeys name) =
      j.keys.foreignConstraints w (j.tables.foreignKeys name))
    (hf : ∀ name t, (f name t).options = t.options) {r r' : ResolvedKeys}
    (h : r'.silent = r.silent) (l : List (String × Table)) :
    ((l.map fun e => (e.1, f e.1 e.2)).foldl (add j' globals) r').silent =
      (l.foldl (add j globals) r).silent := by
  induction l generalizing r r' with
  | nil => exact h
  | cons e l ih =>
      have hnames : r'.names = r.names := by
        show r'.silent.names = r.silent.names
        rw [h]
      have hforeign : r'.foreign.map (fun e => (e.1, e.2.silent)) =
          r.foreign.map fun e => (e.1, e.2.silent) := congrArg foreign h
      have hgathered (w : Bool) : (GatheredKeys.ofTable j'.tables j.keys w r.names e.1).silent =
          (GatheredKeys.ofTable j.tables j.keys w r.names e.1).silent := by
        rw [GatheredKeys.silent_ofTable, GatheredKeys.silent_ofTable, hcolumns, hconstraints]
      refine ih ?_
      simp only [add, silent, mk.injEq, hf, hkeys, hnames, List.map_append, hforeign, List.map_cons,
        List.map_nil, hgathered, true_and]
      show (GatheredKeys.ofTable j'.tables j.keys _ r.names e.1).silent.names = _
      rw [hgathered]
      rfl

end ResolvedKeys

/-! ## The resolved schema -/

namespace Schema

variable (s : Schema) (defaults : Settings) (names : NameSource)

theorem converse?_joined (table other : String) :
    (s.joined defaults names).tables.converse? table other = s.tables.converse? table other := by
  obtain ⟨made, hmade⟩ := s.madeOf_joined defaults names
  rw [hmade.converse?_eq]
  exact Tables.converse?_map (fun _ t => t.settled_oneToMany _) _ _ _

theorem declaresTo_keyed (table other : String) :
    s.tables.declaresTo table other = (s.keyed defaults).tables.declaresTo table other := by
  rw [Tables.declaresTo, Tables.declaresTo, get?_tables_keyed]
  cases s.tables.get? table with
  | none => rfl
  | some t =>
      show _ = (t.settled _).manyToMany.contains other
      rw [Table.settled_manyToMany]
      rfl

/-- Joining the pruned tables joins the same tables and prunes the others. -/
theorem mapped_joined (keys : KeyIndex) :
    (s.joined defaults names).Mapped (Table.pruned s.tables keys)
      ((s.pruned keys).joined defaults names) := by
  have hkeyed : (s.pruned keys).keyed defaults =
      { tables := (s.keyed defaults).tables.map (Table.pruned s.tables keys)
        keys := (s.keyed defaults).keys } := KeyedTables.ofTables_pruned _ _ _ _
  have hstart : JoinedTables.Mapped (Table.pruned s.tables keys)
      { tables := (s.keyed defaults).tables, keys := (s.keyed defaults).keys, names }
      { tables := (s.keyed defaults).tables.map (Table.pruned s.tables keys)
        keys := (s.keyed defaults).keys
        names } := ⟨rfl, rfl, rfl, rfl⟩
  rw [joined, joined, JoinedTables.ofKeyed, JoinedTables.ofKeyed, hkeyed]
  dsimp only
  rw [Tables.manyToMany_map_pruned]
  exact hstart.foldl_pruned (.start _ _ names) (KeyedTables.complete_ofTables _ _)
    (s.declaresTo_keyed defaults) fun _ hd => hd

/-- What is gathered for the foreign keys of all tables. -/
def gathered : ResolvedKeys := .ofJoined (s.globals defaults) (s.joined defaults names)

theorem schema_resolve :
    (s.resolve defaults names).schema =
      { options := { s.options with
          primaryKeys := (s.joined defaults names).keys
          constraints :=
            (s.gathered defaults names).constraints (s.joined defaults names).constraints }
        tables := (s.joined defaults names).tables.map fun name t =>
          { t with
            fields := mergeColumns ((s.joined defaults names).keys.get? name)
              ((s.gathered defaults names).fields name) t.fields } } := rfl

variable {s defaults names}

/-- Resolving the pruned tables gathers what resolving all of them gathers. -/
theorem silent_gathered_pruned {keys : KeyIndex} (hkeys : (s.joined defaults names).keys = keys) :
    ((s.pruned keys).gathered defaults names).silent = (s.gathered defaults names).silent := by
  have hmapped := s.mapped_joined defaults names keys
  have hforeign (name : String) :
      ((s.pruned keys).joined defaults names).tables.foreignKeys name =
        ((s.joined defaults names).tables.foreignKeys name).filter fun e => keys.HasKey e.1 := by
    rw [hmapped.tables]
    exact Tables.foreignKeys_map_pruned (s.converse?_joined defaults names) keys name
  have hglobals : (s.pruned keys).globals defaults = s.globals defaults := rfl
  rw [gathered, gathered, ResolvedKeys.ofJoined, ResolvedKeys.ofJoined, hmapped.tables,
    OrderedMap.entries_map, hmapped.names, hglobals]
  refine ResolvedKeys.silent_foldl_add (Table.pruned s.tables keys) hmapped.keys (fun name => ?_)
    (fun w name => ?_) (fun _ _ => rfl) rfl _
  · rw [hforeign, hkeys, KeyIndex.foreignColumns_filter]
  · rw [hforeign, hkeys, KeyIndex.foreignConstraints_filter]

/-- The pruned schema is resolved to the resolved schema, pruned. -/
theorem resolve_pruned {keys : KeyIndex} (hkeys : (s.joined defaults names).keys = keys) :
    ((s.pruned keys).resolve defaults names).schema =
        { (s.resolve defaults names).schema with
          tables := (s.resolve defaults names).schema.tables.map (Table.pruned s.tables keys) } ∧
      ((s.pruned keys).resolve defaults names).names = (s.resolve defaults names).names := by
  have hmapped := s.mapped_joined defaults names keys
  have hsilent := silent_gathered_pruned hkeys
  have hfields : ((s.pruned keys).gathered defaults names).fields =
      (s.gathered defaults names).fields := by
    rw [← ResolvedKeys.fields_silent, hsilent, ResolvedKeys.fields_silent]
  have hconstraints : ((s.pruned keys).gathered defaults names).constraints =
      (s.gathered defaults names).constraints := by
    rw [← ResolvedKeys.constraints_silent, hsilent, ResolvedKeys.constraints_silent]
  have hnames : ((s.pruned keys).gathered defaults names).silent.names =
      (s.gathered defaults names).silent.names := by rw [hsilent]
  refine ⟨?_, hnames⟩
  rw [schema_resolve, schema_resolve, hfields, hconstraints, hmapped.tables, hmapped.keys,
    hmapped.constraints, OrderedMap.map_map, OrderedMap.map_map]
  rfl

end Schema

end SchemaDdl
