import SchemaDdl.Proofs.Resolution

/-!
# One join table for a pair

Two tables that declare a many-to-many relation to each other are visited
twice, once from either side. At most four names matter to the two visits, the
two that are made of the tables' names and the two that the sides give;
`pairNames` lists them. A visit that finds none of them taken makes the join
table, under one of them, so after the first visit one is taken for good. That
is half of the argument, and it needs nothing of the names.

The other half is that the second visit makes nothing. It does not if the join
table that is there bears a made name, since both are looked for, nor if it
bears the name that the second visit would choose. What is left is a join table
under the name that one side gives while the other gives another, and the
theorem asks that this does not happen.

A name may also be taken by a join table of two other tables. Then the visits
pass the pair over, and there may be none; this is the only way in which there
is none.
-/

namespace SchemaDdl

/-! ## Names -/

/-- The names under which a join table of the two tables is made or looked for. -/
def pairNames (a b : String) (ra rb : Relation) : List String :=
  [Naming.joinTable a b, Naming.joinTable b a] ++
    (ra.givenJoinTable.toList ++ rb.givenJoinTable.toList)

/-- The names that a visit of one declaration looks for, the last of them the name it would use. -/
def visitedNames (d : ManyToMany) (reciprocal : Relation) : List String :=
  [Naming.joinTable d.table d.other, Naming.joinTable d.other d.table, joinTableName d reciprocal]

/-- Both sides give the join table one name, as far as they give it any. -/
def Relation.Agrees (ra rb : Relation) : Prop :=
  ∀ x y, ra.givenJoinTable = some x → rb.givenJoinTable = some y → x = y

theorem Relation.Agrees.symm {ra rb : Relation} (h : ra.Agrees rb) : rb.Agrees ra :=
  fun x y hx hy => (h y x hy hx).symm

theorem Relation.Agrees.orElse_comm {ra rb : Relation} (h : ra.Agrees rb) :
    (ra.givenJoinTable <|> rb.givenJoinTable) = (rb.givenJoinTable <|> ra.givenJoinTable) := by
  cases hra : ra.givenJoinTable with
  | none =>
      cases rb.givenJoinTable with
      | none => rfl
      | some y => rfl
  | some x =>
      cases hrb : rb.givenJoinTable with
      | none => rfl
      | some y => rw [h x y hra hrb]

/-- A given name is chosen from either side, and else the chosen name is one that is looked for. -/
theorem Relation.Agrees.joinTableName_comm {ra rb : Relation} (h : ra.Agrees rb) (a b : String) :
    joinTableName ⟨b, a, rb⟩ ra = joinTableName ⟨a, b, ra⟩ rb ∨
      joinTableName ⟨b, a, rb⟩ ra = Naming.joinTable b a := by
  rw [joinTableName, joinTableName, h.symm.orElse_comm]
  cases ra.givenJoinTable <|> rb.givenJoinTable with
  | none => exact .inr rfl
  | some given => exact .inl rfl

theorem mem_pairNames_comm {a b name : String} {ra rb : Relation}
    (h : name ∈ pairNames a b ra rb) : name ∈ pairNames b a rb ra := by
  simp only [pairNames, List.mem_append, List.mem_cons, List.not_mem_nil, or_false] at h ⊢
  exact h.imp Or.symm Or.symm

theorem joinTableName_mem_pairNames (a b : String) (ra rb : Relation) :
    joinTableName ⟨a, b, ra⟩ rb ∈ pairNames a b ra rb := by
  rw [joinTableName, pairNames]
  cases ra.givenJoinTable with
  | some x => simp
  | none =>
      cases rb.givenJoinTable with
      | some y => simp
      | none => simp

theorem visitedNames_subset_pairNames (a b : String) (ra rb : Relation) :
    visitedNames ⟨a, b, ra⟩ rb ⊆ pairNames a b ra rb := by
  rw [visitedNames, List.cons_subset, List.cons_subset, List.cons_subset]
  exact ⟨by simp [pairNames], by simp [pairNames], joinTableName_mem_pairNames a b ra rb,
    List.nil_subset _⟩

/-! ## Pairs -/

/-- Whether a report is of a join table for the two tables. -/
def ofPair (a b : String) (report : String × String × String) : Bool :=
  report.2 = (a, b) || report.2 = (b, a)

theorem ofPair_iff {a b : String} {report : String × String × String} :
    ofPair a b report = true ↔
      report.2.1 = a ∧ report.2.2 = b ∨ report.2.1 = b ∧ report.2.2 = a := by
  simp only [ofPair, Bool.or_eq_true, decide_eq_true_eq, Prod.ext_iff]

theorem ofPair_comm (a b : String) : ofPair a b = ofPair b a :=
  funext fun _ => Bool.or_comm _ _

/-- Two tables with a key each declare a many-to-many relation to each other. -/
structure KeyedTables.Pair (k : KeyedTables) (a b : String) (ra rb : Relation) : Prop where
  declared : ∃ t, k.tables.get? a = some t ∧ t.manyToMany.get? b = some ra
  reciprocal : ∃ t, k.tables.get? b = some t ∧ t.manyToMany.get? a = some rb
  key : ∃ columns, k.keys.get? a = some columns ∧ columns.isEmpty = false
  otherKey : ∃ columns, k.keys.get? b = some columns ∧ columns.isEmpty = false

theorem KeyedTables.Pair.symm {k : KeyedTables} {a b : String} {ra rb : Relation}
    (p : k.Pair a b ra rb) : k.Pair b a rb ra := ⟨p.reciprocal, p.declared, p.otherKey, p.key⟩

theorem KeyedTables.Pair.eq_declaration {k : KeyedTables} {a b : String} {ra rb : Relation}
    (p : k.Pair a b ra rb) {d : ManyToMany} (hd : d ∈ k.tables.manyToMany) (ha : d.table = a)
    (hb : d.other = b) : d = ⟨a, b, ra⟩ := by
  obtain ⟨table, other, relation⟩ := d
  obtain rfl : table = a := ha
  obtain rfl : other = b := hb
  obtain ⟨t, ht, hr⟩ := Tables.mem_manyToMany.1 hd
  obtain ⟨t', ht', hr'⟩ := p.declared
  obtain rfl := Option.some.inj (ht.symm.trans ht')
  obtain rfl : relation = ra := Option.some.inj (hr.symm.trans hr')
  rfl

/-- A join table that was made from one side of a pair has the other side's declaration too. -/
theorem JoinTable.Joins.eq_of_pair {globals : Settings} {k : KeyedTables} {a b : String}
    {ra rb : Relation} (p : k.Pair a b ra rb) {t : JoinTable} (h : t.Joins globals k)
    (ha : t.declaration.table = a) (hb : t.declaration.other = b) :
    t.declaration = ⟨a, b, ra⟩ ∧ t.reciprocal = rb := by
  refine ⟨p.eq_declaration h.declared ha hb, ?_⟩
  obtain ⟨other, hother, hr⟩ := h.reciprocal
  exact congrArg ManyToMany.relation
    (p.symm.eq_declaration (d := ⟨b, a, t.reciprocal⟩)
      (Tables.mem_manyToMany.2 ⟨other, hb ▸ hother, ha ▸ hr⟩) rfl rfl)

/-- A join table of a pair was made from one of its two sides. -/
theorem JoinTable.Joins.side_of_pair {globals : Settings} {k : KeyedTables} {a b : String}
    {ra rb : Relation} (p : k.Pair a b ra rb) {t : JoinTable} (h : t.Joins globals k)
    (hpair : ofPair a b (t.name, t.declaration.table, t.declaration.other) = true) :
    (t.declaration = ⟨a, b, ra⟩ ∧ t.reciprocal = rb) ∨
      (t.declaration = ⟨b, a, rb⟩ ∧ t.reciprocal = ra) := by
  rcases ofPair_iff.1 hpair with ⟨ha, hb⟩ | ⟨hb, ha⟩
  · exact .inl (h.eq_of_pair p ha hb)
  · exact .inr (h.eq_of_pair p.symm hb ha)

theorem JoinTable.Joins.name_of_pair {globals : Settings} {k : KeyedTables} {a b : String}
    {ra rb : Relation} (p : k.Pair a b ra rb) {t : JoinTable} (h : t.Joins globals k)
    (hpair : ofPair a b (t.name, t.declaration.table, t.declaration.other) = true) :
    t.name = joinTableName ⟨a, b, ra⟩ rb ∨ t.name = joinTableName ⟨b, a, rb⟩ ra := by
  rcases h.side_of_pair p hpair with ⟨hd, hr⟩ | ⟨hd, hr⟩
  · rw [JoinTable.name, hd, hr]
    exact .inl rfl
  · rw [JoinTable.name, hd, hr]
    exact .inr rfl

/-! ## One visit -/

namespace JoinedTables

variable {globals : Settings} {j : JoinedTables} {d : ManyToMany}

theorem reports_add_of_free {t : JoinTable} (h : j.Free globals d t) :
    (j.add globals d).reports = j.reports ++ [(t.name, d.table, d.other)] := by
  rw [add_of_free h, reports, adding, List.filterMap_append, h.declaration]
  rfl

theorem reports_add_subset (globals : Settings) (j : JoinedTables) (d : ManyToMany) :
    j.reports ⊆ (j.add globals d).reports := by
  by_cases hfree : ∃ t, j.Free globals d t
  · obtain ⟨t, ht⟩ := hfree
    rw [reports_add_of_free ht]
    exact List.subset_append_left _ _
  · rw [(add_of_not_free fun t ht => hfree ⟨t, ht⟩).reports]
    exact List.Subset.refl _

end JoinedTables

namespace JoinedTables.MadeOf

variable {globals : Settings} {k : KeyedTables} {j : JoinedTables} {made : List JoinTable}
  {a b : String} {ra rb : Relation}

theorem mem_reports_iff (h : MadeOf globals k j made) {report : String × String × String} :
    report ∈ j.reports ↔
      ∃ t ∈ made, (t.name, t.declaration.table, t.declaration.other) = report := by
  rw [h.reports, List.mem_map]

/-- A join table of the pair has a name of the pair. -/
theorem name_mem_pairNames (h : MadeOf globals k j made) (p : k.Pair a b ra rb)
    {report : String × String × String} (hreport : report ∈ j.reports)
    (hpair : ofPair a b report = true) : report.1 ∈ pairNames a b ra rb := by
  obtain ⟨t, ht, rfl⟩ := h.mem_reports_iff.1 hreport
  rcases (h.joins t ht).name_of_pair p hpair with hname | hname
  · rw [hname]
    exact joinTableName_mem_pairNames a b ra rb
  · rw [hname]
    exact mem_pairNames_comm (joinTableName_mem_pairNames b a rb ra)

/-- A visit to a pair that finds none of the names taken makes a join table. -/
theorem free_of_pair (h : MadeOf globals k j made) (hk : k.Complete) (p : k.Pair a b ra rb)
    (hnames : ∀ name ∈ visitedNames ⟨a, b, ra⟩ rb, name ∉ j.tables.keys) :
    ∃ t, j.Free globals ⟨a, b, ra⟩ t := by
  obtain ⟨ta, hta, -⟩ := p.declared
  obtain ⟨tb, htb, hrb⟩ := p.reciprocal
  have hkeys : ∀ side ∈ [(a, ra), (b, rb)],
      ∃ columns, j.keys.get? side.1 = some columns ∧ columns.isEmpty = false := by
    intro side hside
    rcases List.mem_cons.1 hside with rfl | hside
    · rw [h.get?_keys_of_keyed hk (OrderedMap.mem_keys_of_get? hta)]
      exact p.key
    · rw [List.mem_singleton.1 hside, h.get?_keys_of_keyed hk (OrderedMap.mem_keys_of_get? htb)]
      exact p.otherKey
  obtain ⟨columns, hcolumns⟩ := JoinColumns.ofSides_of_keys hkeys j.names
  have hmade : ∀ name ∈ visitedNames ⟨a, b, ra⟩ rb, j.tables.contains name = false :=
    fun name hname => Bool.eq_false_iff.2 fun hc => hnames name hname (OrderedMap.contains_iff.1 hc)
  refine ⟨⟨⟨a, b, ra⟩, rb, columns⟩, rfl, ?_, ?_, ?_, hcolumns⟩
  · rw [isMade, hmade _ (by simp [visitedNames]), hmade _ (by simp [visitedNames])]
    rfl
  · exact h.reciprocal?_eq_some_iff.2 ⟨tb, htb, hrb⟩
  · exact hnames _ (by simp [visitedNames, JoinTable.name])

/-- A visit that makes a join table was to a pair, and found none of the names taken. -/
theorem pair_of_free (h : MadeOf globals k j made) (hk : k.Complete) {d : ManyToMany}
    (hd : d ∈ k.tables.manyToMany) {t : JoinTable} (ht : j.Free globals d t) :
    k.Pair d.table d.other d.relation t.reciprocal ∧
      ∀ name ∈ visitedNames d t.reciprocal, name ∉ j.tables.keys := by
  obtain ⟨tb, htb, hrb⟩ := h.reciprocal?_eq_some_iff.1 ht.reciprocal
  obtain ⟨names, hcolumns⟩ := (h.joins_of_free hk hd ht).columns
  have hkeys := JoinColumns.hasKey_of_ofSides hcolumns
  obtain rfl := ht.declaration
  refine ⟨⟨Tables.mem_manyToMany.1 hd, ⟨tb, htb, hrb⟩,
    hkeys (t.declaration.table, t.declaration.relation) (by simp [JoinTable.sides]),
    hkeys (t.declaration.other, t.reciprocal) (by simp [JoinTable.sides])⟩, ?_⟩
  have hnot := ht.notMade
  rw [isMade, Bool.or_eq_false_iff] at hnot
  have hfree : ∀ {name}, j.tables.contains name = false → name ∉ j.tables.keys :=
    fun hc hmem => Bool.eq_false_iff.1 hc (OrderedMap.contains_iff.2 hmem)
  simp only [visitedNames, List.forall_mem_cons]
  exact ⟨hfree hnot.1, hfree hnot.2, ht.newName, fun name hname => by cases hname⟩

theorem name_of_free (h : MadeOf globals k j made) (p : k.Pair a b ra rb) {t : JoinTable}
    (hfree : j.Free globals ⟨a, b, ra⟩ t) : t.name = joinTableName ⟨a, b, ra⟩ rb := by
  obtain ⟨tb, htb, hrb⟩ := p.reciprocal
  have hreciprocal := hfree.reciprocal
  rw [h.reciprocal?_eq_some_iff.2 ⟨tb, htb, hrb⟩] at hreciprocal
  rw [JoinTable.name, hfree.declaration, ← Option.some.inj hreciprocal]

/-- A visit to a pair leaves one of its names with a join table. -/
theorem exists_report_add (h : MadeOf globals k j made) (hk : k.Complete) (p : k.Pair a b ra rb)
    (hnames : ∀ name ∈ pairNames a b ra rb, name ∉ k.tables.keys) :
    ∃ report ∈ (j.add globals ⟨a, b, ra⟩).reports, report.1 ∈ pairNames a b ra rb := by
  by_cases htaken : ∃ name ∈ pairNames a b ra rb, name ∈ j.tables.keys
  · obtain ⟨name, hname, hmem⟩ := htaken
    rw [h.keys_tables, List.mem_append] at hmem
    obtain ⟨t, ht, rfl⟩ := List.mem_map.1 (hmem.resolve_left (hnames name hname))
    exact ⟨_, reports_add_subset globals j _ (h.mem_reports_iff.2 ⟨t, ht, rfl⟩), hname⟩
  · obtain ⟨t, ht⟩ := h.free_of_pair hk p fun name hname hmem =>
      htaken ⟨name, visitedNames_subset_pairNames a b ra rb hname, hmem⟩
    refine ⟨(t.name, a, b), ?_, ?_⟩
    · rw [reports_add_of_free ht]
      exact List.mem_append_right _ List.mem_cons_self
    · rw [h.name_of_free p ht]
      exact joinTableName_mem_pairNames a b ra rb

/-- A visit to a pair that has a join table makes no other. -/
theorem not_free_of_pair (h : MadeOf globals k j made) (p : k.Pair a b ra rb)
    (hagree : ra.Agrees rb) {report : String × String × String} (hreport : report ∈ j.reports)
    (hpair : ofPair a b report = true) (t : JoinTable) : ¬ j.Free globals ⟨a, b, ra⟩ t := by
  intro hfree
  obtain ⟨t', ht', rfl⟩ := h.mem_reports_iff.1 hreport
  have htaken : t'.name ∈ j.tables.keys := by
    rw [h.keys_tables]
    exact List.mem_append_right _ (List.mem_map_of_mem ht')
  have hnew : joinTableName ⟨a, b, ra⟩ rb ∉ j.tables.keys := h.name_of_free p hfree ▸ hfree.newName
  rcases (h.joins t' ht').name_of_pair p hpair with hname | hname
  · exact hnew (hname ▸ htaken)
  · -- The other side chose the name, which this side chooses too or looks for.
    rcases hagree.joinTableName_comm a b with hsame | hmade
    · exact hnew (hsame ▸ hname ▸ htaken)
    · have hnot := hfree.notMade
      rw [isMade, Bool.or_eq_false_iff] at hnot
      exact Bool.eq_false_iff.1 hnot.2 (OrderedMap.contains_iff.2 (hmade ▸ hname ▸ htaken))

theorem pair_le_one_add (h : MadeOf globals k j made) (p : k.Pair a b ra rb)
    (hagree : ra.Agrees rb) {d : ManyToMany} (hd : d ∈ k.tables.manyToMany)
    (hone : (j.reports.filter (ofPair a b)).length ≤ 1) :
    ((j.add globals d).reports.filter (ofPair a b)).length ≤ 1 := by
  by_cases hfree : ∃ t, j.Free globals d t
  · obtain ⟨t, ht⟩ := hfree
    rw [reports_add_of_free ht, List.filter_append, List.length_append]
    cases hpair : ofPair a b (t.name, d.table, d.other) with
    | false => simp [hpair, hone]
    | true =>
        have hnone : j.reports.filter (ofPair a b) = [] := by
          refine List.filter_eq_nil_iff.2 fun report hreport hof => ?_
          rcases ofPair_iff.1 hpair with ⟨ha, hb⟩ | ⟨hb, ha⟩
          · obtain rfl := p.eq_declaration hd ha hb
            exact h.not_free_of_pair p hagree hreport hof t ht
          · obtain rfl := p.symm.eq_declaration hd hb ha
            rw [ofPair_comm] at hof
            exact h.not_free_of_pair p.symm hagree.symm hreport hof t ht
        simp [hnone, hpair]
  · rw [(add_of_not_free fun t ht => hfree ⟨t, ht⟩).reports]
    exact hone

/-! ## The run -/

/-- Whatever is visited, a pair gets at most one join table. -/
theorem pair_le_one_foldl (h : MadeOf globals k j made) (hk : k.Complete) (p : k.Pair a b ra rb)
    (hagree : ra.Agrees rb) {ds : List ManyToMany} (hds : ∀ d ∈ ds, d ∈ k.tables.manyToMany)
    (hone : (j.reports.filter (ofPair a b)).length ≤ 1) :
    ((ds.foldl (JoinedTables.add globals) j).reports.filter (ofPair a b)).length ≤ 1 := by
  induction ds generalizing j made with
  | nil => exact hone
  | cons d r ih =>
      have hd : d ∈ k.tables.manyToMany := hds d List.mem_cons_self
      have hr : ∀ d' ∈ r, d' ∈ k.tables.manyToMany :=
        fun d' hd' => hds d' (List.mem_cons_of_mem _ hd')
      obtain ⟨made', hmade'⟩ := h.foldl_add hk fun d' hd' => List.mem_singleton.1 hd' ▸ hd
      exact ih hmade' hr (h.pair_le_one_add p hagree hd hone)

/-- What a visit brings about and later visits keep holds after a run that makes the visit. -/
theorem foldl_of_visit {P : JoinedTables → Prop} (h : MadeOf globals k j made) (hk : k.Complete)
    {d : ManyToMany} (hvisit : ∀ {j made}, MadeOf globals k j made → P (j.add globals d))
    (hkeep : ∀ j d', P j → P (j.add globals d')) {ds : List ManyToMany}
    (hds : ∀ d' ∈ ds, d' ∈ k.tables.manyToMany) (hd : d ∈ ds) :
    P (ds.foldl (JoinedTables.add globals) j) := by
  obtain ⟨before, after, rfl⟩ := List.append_of_mem hd
  obtain ⟨made', hmade'⟩ := h.foldl_add hk fun d' hd' => hds d' (List.mem_append_left _ hd')
  rw [List.foldl_append, List.foldl_cons]
  exact List.foldlRecOn after _ (hvisit hmade') fun j hj d' _ => hkeep j d' hj

/-- A run that visits a pair leaves one of its names with a join table. -/
theorem exists_report_foldl (h : MadeOf globals k j made) (hk : k.Complete)
    (p : k.Pair a b ra rb) (hnames : ∀ name ∈ pairNames a b ra rb, name ∉ k.tables.keys)
    {ds : List ManyToMany} (hds : ∀ d ∈ ds, d ∈ k.tables.manyToMany) (hpair : ⟨a, b, ra⟩ ∈ ds) :
    ∃ report ∈ (ds.foldl (JoinedTables.add globals) j).reports,
      report.1 ∈ pairNames a b ra rb := by
  refine h.foldl_of_visit (P := fun j => ∃ report ∈ j.reports, report.1 ∈ pairNames a b ra rb) hk
    (fun hmade => hmade.exists_report_add hk p hnames) ?_ hds hpair
  rintro j d ⟨report, hreport, hname⟩
  exact ⟨report, reports_add_subset globals j d hreport, hname⟩

end JoinedTables.MadeOf

/-! ## Reports

Joining is the only part of a compilation that reports a join table, so the
reports of the compilation are its. -/

/-- None of the notes reports a join table. -/
def Unreporting (notes : List Note) : Prop := ∀ n ∈ notes, n.joinTable? = none

theorem Unreporting.append {l l' : List Note} (h : Unreporting l) (h' : Unreporting l') :
    Unreporting (l ++ l') := fun n hn => (List.mem_append.1 hn).elim (h n) (h' n)

theorem Unreporting.append_singleton {l : List Note} (h : Unreporting l) {n : Note}
    (hn : n.joinTable? = none) : Unreporting (l ++ [n]) :=
  h.append fun _ hn' => List.mem_singleton.1 hn' ▸ hn

theorem KeyedTables.unreporting_notes (k : KeyedTables) : Unreporting k.notes := by
  intro n hn
  obtain ⟨e, -, rfl⟩ := List.mem_map.1 hn
  rfl

theorem Tables.unreporting_oneSidedNotes (ts : Tables) (table : String) :
    Unreporting (ts.oneSidedNotes table) := by
  intro n hn
  rw [Tables.oneSidedNotes] at hn
  split at hn
  · cases hn
  · obtain ⟨other, -, rfl⟩ := List.mem_map.1 hn
    rfl

theorem GatheredKeys.unreporting_add {g : GatheredKeys} (h : Unreporting g.notes) (keys : KeyIndex)
    (withConstraints : Bool) (table : String) (e : String × ForeignKey) :
    Unreporting (add keys withConstraints table g e).notes := by
  rw [add]
  split
  · exact h.append_singleton rfl
  · cases withConstraints with
    | false => exact h
    | true => exact h

theorem GatheredKeys.unreporting_ofTable (ts : Tables) (keys : KeyIndex) (withConstraints : Bool)
    (names : NameSource) (table : String) :
    Unreporting (ofTable ts keys withConstraints names table).notes :=
  List.foldlRecOn (motive := fun g : GatheredKeys => Unreporting g.notes) (ts.foreignKeys table) _
    (ts.unreporting_oneSidedNotes table) fun _ h e _ =>
      unreporting_add h keys withConstraints table e

theorem ResolvedKeys.unreporting_notes (globals : Settings) (j : JoinedTables) :
    Unreporting (ofJoined globals j).notes := by
  have hall : ∀ e ∈ (ofJoined globals j).foreign, Unreporting e.2.notes := by
    refine List.foldlRecOn
      (motive := fun r : ResolvedKeys => ∀ e ∈ r.foreign, Unreporting e.2.notes)
      j.tables.entries _ (fun e he => by cases he) fun r hr e _ e' he' => ?_
    rcases List.mem_append.1 he' with he' | he'
    · exact hr e' he'
    · rw [List.mem_singleton.1 he']
      exact GatheredKeys.unreporting_ofTable _ _ _ _ _
  intro n hn
  obtain ⟨e, he, hn⟩ := List.mem_flatMap.1 hn
  exact hall e he n hn

theorem Table.unreporting_columnNotes (name : String) (t : Table) :
    Unreporting (t.columnNotes name) := by
  intro n hn
  obtain ⟨e, -, he⟩ := List.mem_filterMap.1 hn
  split at he
  · cases he
  · rw [← Option.some.inj he]
    rfl

theorem Schema.unreporting_scriptNotes (s : Schema) : Unreporting s.scriptNotes := by
  intro n hn
  obtain ⟨table, -, hn⟩ := List.mem_flatMap.1 hn
  rw [tableNotes] at hn
  split at hn
  · cases hn
  · next t _ =>
      rcases List.mem_append.1 hn with hn | hn
      · exact t.unreporting_columnNotes table n hn
      · split at hn
        · cases hn
        · exact s.tables.unreporting_oneSidedNotes table n hn

/-- The join tables that a compilation made, each with the two tables that it was made for. -/
def Compilation.joinTables (r : Compilation) : List (String × String × String) :=
  r.notes.filterMap Note.joinTable?

theorem Compilation.joinTables_eq_reports {s : Schema} {defaults : Settings} {names : NameSource}
    {r : Compilation} {tables statements : Nat}
    (h : r.notes = (s.resolve defaults names).notes ++ r.schema.scriptNotes ++
      [.compiled tables statements]) :
    r.joinTables = (s.joined defaults names).reports := by
  have hnone : ∀ {l : List Note}, Unreporting l → l.filterMap Note.joinTable? = [] :=
    fun hl => List.filterMap_eq_nil_iff.2 hl
  have hnotes : (s.resolve defaults names).notes =
      (s.keyed defaults).notes ++ (s.joined defaults names).notes ++
        (ResolvedKeys.ofJoined (s.globals defaults) (s.joined defaults names)).notes := rfl
  have hscript : Unreporting (r.schema.scriptNotes ++ [.compiled tables statements]) :=
    r.schema.unreporting_scriptNotes.append_singleton rfl
  rw [joinTables, h, hnotes, List.append_assoc, List.filterMap_append, List.filterMap_append,
    List.filterMap_append, hnone hscript, hnone (KeyedTables.unreporting_notes _),
    hnone (ResolvedKeys.unreporting_notes _ _), List.append_nil, List.append_nil, List.nil_append]
  rfl

/-! ## The result -/

namespace Schema

variable {s : Schema} {defaults : Settings} {names : NameSource} {a b : String} {ra rb : Relation}

/-- Two declared tables that have a key declare a many-to-many relation to each other, and no
declared table has one of the names that their join table might get. -/
structure Paired (s : Schema) (a b : String) (ra rb : Relation) : Prop where
  declared : ∃ t, s.tables.get? a = some t ∧ t.manyToMany.get? b = some ra ∧
    t.options.primaryKey ≠ some []
  reciprocal : ∃ t, s.tables.get? b = some t ∧ t.manyToMany.get? a = some rb ∧
    t.options.primaryKey ≠ some []
  unclaimed : ∀ name ∈ pairNames a b ra rb, name ∉ s.tables.keys

/-- The table is a join table with a foreign key for each side, and nothing else. -/
def Joins (s : Schema) (globals : Settings) (name : String) (sides : List (String × Relation)) :
    Prop :=
  ∃ names columns,
    JoinColumns.ofSides s.options.primaryKeys globals.constraints names sides = .ok columns ∧
      s.tables.get? name = some (columns.table globals)

theorem keyed_side {name other : String} {r : Relation}
    (h : ∃ t, s.tables.get? name = some t ∧ t.manyToMany.get? other = some r ∧
      t.options.primaryKey ≠ some []) (defaults : Settings) :
    (∃ t, (s.keyed defaults).tables.get? name = some t ∧ t.manyToMany.get? other = some r) ∧
      ∃ columns, (s.keyed defaults).keys.get? name = some columns ∧ columns.isEmpty = false := by
  obtain ⟨t, ht, hr, hkey⟩ := h
  refine ⟨⟨t.settled (s.globals defaults), ?_, ?_⟩,
    (t.settled (s.globals defaults)).keyFields, ?_, ?_⟩
  · rw [get?_tables_keyed, ht]
    rfl
  · rw [Table.settled_manyToMany]
    exact hr
  · rw [keyed, KeyedTables.get?_keys_ofTables, ht]
    rfl
  · rw [Bool.eq_false_iff]
    intro hempty
    rw [Table.keyFields_isEmpty_iff, Table.settled_primaryKey] at hempty
    exact hkey hempty

theorem Paired.tables_nonempty (h : s.Paired a b ra rb) : s.tables.isEmpty = false := by
  obtain ⟨t, ht, -⟩ := h.declared
  exact OrderedMap.isEmpty_eq_false_iff.2 ⟨a, t, ht⟩

theorem Paired.keyed (h : s.Paired a b ra rb) (defaults : Settings) :
    (s.keyed defaults).Pair a b ra rb where
  declared := (keyed_side h.declared defaults).1
  reciprocal := (keyed_side h.reciprocal defaults).1
  key := (keyed_side h.declared defaults).2
  otherKey := (keyed_side h.reciprocal defaults).2

/-- The columns of a join table were made from the keys that the resolved schema stores. -/
theorem ofSides_of_made {made : List JoinTable}
    (hmade : (s.joined defaults names).MadeOf (s.globals defaults) (s.keyed defaults) made)
    {t : JoinTable} (ht : t ∈ made) :
    ∃ names', JoinColumns.ofSides (s.resolve defaults names).schema.options.primaryKeys
      (s.globals defaults).constraints names' t.sides = .ok t.columns := by
  obtain ⟨names', hcolumns⟩ := (hmade.joins t ht).columns
  refine ⟨names', ?_⟩
  rw [← hcolumns, primaryKeys_resolve]
  refine JoinColumns.ofSides_congr (fun side hside => ?_) names'
  refine hmade.get?_keys_of_keyed (KeyedTables.complete_ofTables _ _) ?_
  obtain ⟨other, hother, -⟩ := (hmade.joins t ht).reciprocal
  rcases List.mem_cons.1 hside with rfl | hside
  · exact Tables.table_of_manyToMany (hmade.joins t ht).declared
  · rw [List.mem_singleton.1 hside]
    exact OrderedMap.mem_keys_of_get? hother

/-- A join table is in the resolved schema as it was made. -/
theorem get?_tables_of_made {made : List JoinTable}
    (hmade : (s.joined defaults names).MadeOf (s.globals defaults) (s.keyed defaults) made)
    {t : JoinTable} (ht : t ∈ made) :
    (s.resolve defaults names).schema.tables.get? t.name =
      some (t.columns.table (s.globals defaults)) := by
  rw [get?_tables_resolve, hmade.get?_tables_iff.2 (.inr ⟨t, ht, rfl, rfl⟩),
    hmade.get?_keys_iff.2 (.inr ⟨t, ht, rfl, rfl⟩),
    foreignColumns_of_undeclared (undeclared_of_made hmade ht)]
  have hcolumns : mergeColumns (some t.columns.fields) {} t.columns.fields = t.columns.fields :=
    OrderedMap.extend_self t.columns.fields
  rw [Option.map_some, JoinColumns.table, hcolumns]

theorem joins_of_made {made : List JoinTable}
    (hmade : (s.joined defaults names).MadeOf (s.globals defaults) (s.keyed defaults) made)
    {t : JoinTable} (ht : t ∈ made) :
    (s.resolve defaults names).schema.Joins (s.globals defaults) t.name t.sides := by
  obtain ⟨names', hcolumns⟩ := ofSides_of_made hmade ht
  exact ⟨names', t.columns, hcolumns, get?_tables_of_made hmade ht⟩

/-- A join table that was made for a pair joins its two sides. -/
theorem joins_of_pair {made : List JoinTable}
    (hmade : (s.joined defaults names).MadeOf (s.globals defaults) (s.keyed defaults) made)
    (h : s.Paired a b ra rb) {report : String × String × String}
    (hreport : report ∈ (s.joined defaults names).reports) (hpair : ofPair a b report = true) :
    (s.resolve defaults names).schema.Joins (s.globals defaults) report.1 [(a, ra), (b, rb)] ∨
      (s.resolve defaults names).schema.Joins (s.globals defaults) report.1 [(b, rb), (a, ra)] := by
  obtain ⟨t, ht, rfl⟩ := hmade.mem_reports_iff.1 hreport
  have hjoins := joins_of_made hmade ht
  rcases (hmade.joins t ht).side_of_pair (h.keyed defaults) hpair with ⟨hd, hr⟩ | ⟨hd, hr⟩
  · rw [JoinTable.sides, hd, hr] at hjoins
    exact .inl hjoins
  · rw [JoinTable.sides, hd, hr] at hjoins
    exact .inr hjoins

end Schema

/-- A pair that agrees on the name of its join table gets at most one, and exactly one unless a
join table of two other tables has taken a name of the pair. What is reported as a join table is
all that a compilation adds to the tables. -/
theorem compile_joinTables_of_pair (c : Compiler) (s : Schema) (hraw : s.isCompiled = false)
    {a b : String} {ra rb : Relation} (hpaired : s.Paired a b ra rb) (hagree : ra.Agrees rb) :
    ∃ r, c.compile s = .ok r ∧
      r.schema.tables.keys = s.tables.keys ++ r.joinTables.map Prod.fst ∧
      (∀ t ∈ r.joinTables.filter (ofPair a b), t.1 ∈ pairNames a b ra rb ∧
        (r.schema.Joins (s.globals c.defaults) t.1 [(a, ra), (b, rb)] ∨
          r.schema.Joins (s.globals c.defaults) t.1 [(b, rb), (a, ra)])) ∧
      (r.joinTables.filter (ofPair a b)).length ≤ 1 ∧
      ((∀ t ∈ r.joinTables, t.1 ∈ pairNames a b ra rb → ofPair a b t = true) →
        (r.joinTables.filter (ofPair a b)).length = 1) := by
  obtain ⟨r, hr, hschema, hnotes⟩ := c.compile_of_uncompiled hpaired.tables_nonempty hraw
  have hreports := Compilation.joinTables_eq_reports hnotes
  have hcomplete : (s.keyed c.defaults).Complete := KeyedTables.complete_ofTables _ _
  have hkeys : (s.keyed c.defaults).tables.keys = s.tables.keys :=
    KeyedTables.keys_tables_ofTables _ _
  have hstart := JoinedTables.MadeOf.start (s.globals c.defaults) (s.keyed c.defaults) c.names
  have hpair := hpaired.keyed c.defaults
  obtain ⟨made, hmade⟩ := s.madeOf_joined c.defaults c.names
  have hone : ((s.joined c.defaults c.names).reports.filter (ofPair a b)).length ≤ 1 :=
    hstart.pair_le_one_foldl hcomplete hpair hagree (fun _ hd => hd) (Nat.zero_le 1)
  obtain ⟨report, hreport, hname⟩ :
      ∃ report ∈ (s.joined c.defaults c.names).reports, report.1 ∈ pairNames a b ra rb :=
    hstart.exists_report_foldl hcomplete hpair
      (fun name hname => hkeys ▸ hpaired.unclaimed name hname)
      (fun _ hd => hd) (Tables.mem_manyToMany.2 hpair.declared)
  rw [← hreports] at hone hreport
  refine ⟨r, hr, ?_, ?_, hone, fun hothers => ?_⟩
  · rw [hschema, hreports, Schema.keys_tables_resolve, hmade.keys_tables, hkeys, hmade.reports,
      List.map_map]
    rfl
  · intro t ht
    obtain ⟨hmem, hof⟩ := List.mem_filter.1 ht
    rw [hreports] at hmem
    rw [hschema]
    exact ⟨hmade.name_mem_pairNames hpair hmem hof, Schema.joins_of_pair hmade hpaired hmem hof⟩
  · have hmem : report ∈ r.joinTables.filter (ofPair a b) :=
      List.mem_filter.2 ⟨hreport, hothers report hreport hname⟩
    exact Nat.le_antisymm hone (List.length_pos_of_mem hmem)

/-- A pair of which one side names the join table. -/
def membership : Schema :=
  ({} : Schema)
    |>.addTable "user" (({} : Table).hasManyToMany "role" { joinTable := some "membership" })
    |>.addTable "role" (({} : Table).hasManyToMany "user" {})

theorem membership_joinTables :
    membership.Paired "user" "role" { joinTable := some "membership" } {} ∧
      ∃ r, ({ names := .counting } : Compiler).compile membership = .ok r ∧
        (r.joinTables.filter (ofPair "user" "role")).length = 1 := by
  have hpaired : membership.Paired "user" "role" { joinTable := some "membership" } {} :=
    ⟨⟨_, rfl, rfl, by decide⟩, ⟨_, rfl, rfl, by decide⟩, by decide⟩
  obtain ⟨r, hr, -, -, -, hone⟩ := compile_joinTables_of_pair { names := .counting } membership
    (by decide) hpaired fun x y _ hy => by cases hy
  refine ⟨hpaired, r, hr, hone ?_⟩
  obtain rfl := Except.ok.inj hr
  decide

/-- A pair whose sides give two names. -/
def twoNames : Schema :=
  ({} : Schema)
    |>.addTable "a" (({} : Table).hasManyToMany "b" { joinTable := some "x" })
    |>.addTable "b" (({} : Table).hasManyToMany "a" { joinTable := some "y" })

/-- A pair whose name is taken by the join table of another. -/
def sharedName : Schema :=
  ({} : Schema)
    |>.addTable "a" ((({} : Table).hasManyToMany "c" { joinTable := some "links" }).hasManyToMany
      "b" { joinTable := some "links" })
    |>.addTable "b" (({} : Table).hasManyToMany "a" {})
    |>.addTable "c" (({} : Table).hasManyToMany "a" {})

theorem joinTables_twoNames_sharedName :
    (twoNames.Paired "a" "b" { joinTable := some "x" } { joinTable := some "y" } ∧
      ∃ r, ({ names := .counting } : Compiler).compile twoNames = .ok r ∧
        r.joinTables.filter (ofPair "a" "b") = [("x", "a", "b"), ("y", "b", "a")]) ∧
    (sharedName.Paired "a" "b" { joinTable := some "links" } {} ∧
      ∃ r, ({ names := .counting } : Compiler).compile sharedName = .ok r ∧
        r.joinTables.filter (ofPair "a" "b") = []) := by
  refine ⟨⟨⟨⟨_, rfl, rfl, by decide⟩, ⟨_, rfl, rfl, by decide⟩, by decide⟩, _, rfl, ?_⟩,
    ⟨⟨_, rfl, rfl, by decide⟩, ⟨_, rfl, rfl, by decide⟩, by decide⟩, _, rfl, ?_⟩
  · decide
  · decide

end SchemaDdl
