import SchemaDdl.Proofs.Declarations

/-!
# A join table has two sides

A join table is made from two declarations that know nothing of each other.
Each gives a foreign key, and the two are added one after another to three maps
and a list: to the columns, to the key index and to the constraints under the
name of the column, and to the list of key columns behind what stands there.
With two names this makes two of everything. With one name the maps keep one
column and one constraint, the second side's, while the list has the name twice;
what is meant to join two rows then refers to one. A table that is joined to
itself always comes to this, because both its sides are one declaration.

`compile_joinsSides_iff` says that nothing but the names decides.
-/

namespace SchemaDdl

namespace OrderedMap

variable {α : Type _}

theorem keys_pair (k k' : String) (x y : α) :
    (ofList [(k, x), (k', y)]).keys = if k' = k then [k] else [k, k'] := by
  rw [ofList, insertAll_cons, insertAll_cons, insertAll_nil, keys_insert, keys_insert]
  simp

theorem get?_pair (k k' : String) (x y : α) (column : String) :
    (ofList [(k, x), (k', y)]).get? column =
      if column = k' then some y else if column = k then some x else none := by
  rw [ofList, insertAll_cons, insertAll_cons, insertAll_nil, get?_insert, get?_insert, get?_empty]

theorem get?_pair_fst {k k' : String} (h : k ≠ k') (x y : α) :
    (ofList [(k, x), (k', y)]).get? k = some x := by
  rw [get?_pair, if_neg h, if_pos rfl]

theorem get?_pair_snd (k k' : String) (x y : α) : (ofList [(k, x), (k', y)]).get? k' = some y := by
  rw [get?_pair, if_pos rfl]

end OrderedMap

/-! ## Adding both sides -/

/-- A side of a join table as the foreign key that it gives, with the table it refers to. -/
def sideKey (table : String) (r : Relation) : String × ForeignKey := (table, r.resolve table)

theorem JoinColumns.ofSides_pair {keys : KeyIndex} {withConstraints : Bool} {names : NameSource}
    {a b : String} {ra rb : Relation} {c : JoinColumns}
    (h : ofSides keys withConstraints names [(a, ra), (b, rb)] = .ok c) :
    ∃ ca ka cb kb, keys.referenced a (ra.resolve a) = .ok (ca, ka) ∧
      keys.referenced b (rb.resolve b) = .ok (cb, kb) ∧
      c.fields = .ofList [((ra.resolve a).column, (ra.resolve a).joinField ka),
        ((rb.resolve b).column, (rb.resolve b).joinField kb)] ∧
      (withConstraints = true → ∃ na nb, c.constraints =
        .ofList [((ra.resolve a).column, (ra.resolve a).constraint na a ca),
          ((rb.resolve b).column, (rb.resolve b).constraint nb b cb)]) := by
  obtain ⟨c₁, ca, ka, ha, hfirst, hrest⟩ := foldlM_cons_ok h
  obtain ⟨c₂, cb, kb, hb, hsecond, hnone⟩ := foldlM_cons_ok hrest
  rw [addSide_ok ha] at hfirst
  obtain rfl := Except.ok.inj hfirst
  rw [addSide_ok hb] at hsecond
  obtain rfl := Except.ok.inj hsecond
  obtain rfl := Except.ok.inj hnone
  refine ⟨ca, ka, cb, kb, ha, hb, rfl, ?_⟩
  rintro rfl
  exact ⟨_, _, rfl⟩

/-! ## What a join table of two sides is -/

/-- A table with a column for each of two foreign keys, which make up its key, and no other. -/
structure Table.HasSides (keys : KeyIndex) (a b : String × ForeignKey) (t : Table) : Prop where
  listed : t.options.primaryKey = some [a.2.column, b.2.column]
  columns : t.fields.keys = [a.2.column, b.2.column]
  made : ∀ side ∈ [a, b], ∃ column key, keys.referenced side.1 side.2 = .ok (column, key) ∧
    t.fields.get? side.2.column = some (side.2.joinField key)
  notNull : ∀ column f, t.fields.get? column = some f →
    f.nullable = some false ∧ f.autoIncrement = none

/-- The schema joins the sides in a table of that name, and where there are to be constraints it
has one for each side. -/
structure Schema.JoinsSides (s : Schema) (withConstraints : Bool) (name : String)
    (a b : String × ForeignKey) : Prop where
  table : ∃ t, s.tables.get? name = some t ∧ t.HasSides s.options.primaryKeys a b
  keyed : ∃ key, s.options.primaryKeys.get? name = some key ∧
    key.keys = [a.2.column, b.2.column]
  constraints : withConstraints = true → ∃ constraints,
    s.options.constraints.get? name = some constraints ∧
      constraints.keys = [a.2.column, b.2.column] ∧
      ∀ side ∈ [a, b], ∃ c key, constraints.get? side.2.column = some c ∧
        c.referencedTable = side.1 ∧ c.FromKey s.options.primaryKeys side.2 key

namespace JoinColumns

variable {keys : KeyIndex} {withConstraints : Bool} {names : NameSource} {a b : String}
  {ra rb : Relation} {c : JoinColumns}

theorem listed_pair (h : ofSides keys withConstraints names [(a, ra), (b, rb)] = .ok c)
    (globals : Settings) : (c.table globals).options.primaryKey =
      some [(ra.resolve a).column, (rb.resolve b).column] :=
  congrArg some (primaryKey_ofSides h)

theorem hasSides_of_ne (h : ofSides keys withConstraints names [(a, ra), (b, rb)] = .ok c)
    (hne : (ra.resolve a).column ≠ (rb.resolve b).column) (globals : Settings) :
    (c.table globals).HasSides keys (sideKey a ra) (sideKey b rb) := by
  obtain ⟨ca, ka, cb, kb, ha, hb, hfields, -⟩ := ofSides_pair h
  refine ⟨listed_pair h globals, ?_, ?_, ?_⟩
  · show c.fields.keys = _
    rw [hfields, OrderedMap.keys_pair, if_neg hne.symm]
    rfl
  · intro side hside
    show ∃ column key, _ ∧ c.fields.get? side.2.column = _
    rw [hfields]
    rcases List.mem_cons.1 hside with rfl | hside
    · exact ⟨ca, ka, ha, OrderedMap.get?_pair_fst hne _ _⟩
    · rw [List.mem_singleton.1 hside]
      exact ⟨cb, kb, hb, OrderedMap.get?_pair_snd _ _ _ _⟩
  · intro column f hf
    have hget : c.fields.get? column = some f := hf
    rw [hfields, OrderedMap.get?_pair] at hget
    split at hget
    · rw [← Option.some.inj hget]
      exact ⟨rfl, rfl⟩
    · split at hget
      · rw [← Option.some.inj hget]
        exact ⟨rfl, rfl⟩
      · cases hget

/-- Sides of one name leave one column, listed twice. -/
theorem columns_of_eq (h : ofSides keys withConstraints names [(a, ra), (b, rb)] = .ok c)
    (heq : (ra.resolve a).column = (rb.resolve b).column) :
    c.fields.keys = [(ra.resolve a).column] := by
  obtain ⟨ca, ka, cb, kb, -, -, hfields, -⟩ := ofSides_pair h
  rw [hfields, OrderedMap.keys_pair, if_pos heq.symm]

theorem constraints_of_ne (h : ofSides keys true names [(a, ra), (b, rb)] = .ok c)
    (hne : (ra.resolve a).column ≠ (rb.resolve b).column) :
    c.constraints.keys = [(ra.resolve a).column, (rb.resolve b).column] ∧
      ∀ side ∈ [sideKey a ra, sideKey b rb], ∃ made key,
        c.constraints.get? side.2.column = some made ∧ made.referencedTable = side.1 ∧
          made.FromKey keys side.2 key := by
  obtain ⟨ca, ka, cb, kb, ha, hb, -, hconstraints⟩ := ofSides_pair h
  obtain ⟨na, nb, hmade⟩ := hconstraints rfl
  rw [hmade, OrderedMap.keys_pair, if_neg hne.symm]
  refine ⟨rfl, fun side hside => ?_⟩
  rcases List.mem_cons.1 hside with rfl | hside
  · exact ⟨(ra.resolve a).constraint na a ca, ka, OrderedMap.get?_pair_fst hne _ _, rfl,
      (ra.resolve a).fromKey_constraint ha na⟩
  · rw [List.mem_singleton.1 hside]
    exact ⟨(rb.resolve b).constraint nb b cb, kb, OrderedMap.get?_pair_snd _ _ _ _, rfl,
      (rb.resolve b).fromKey_constraint hb nb⟩

end JoinColumns

namespace Schema

variable {s : Schema} {defaults : Settings} {names : NameSource}

/-- The resolved schema has the constraints of a join table as they were made. -/
theorem get?_constraints_of_made {made : List JoinTable}
    (hmade : (s.joined defaults names).MadeOf (s.globals defaults) (s.keyed defaults) made)
    {t : JoinTable} (ht : t ∈ made) (hne : t.columns.constraints.isEmpty = false) :
    (s.resolve defaults names).schema.options.constraints.get? t.name =
      some t.columns.constraints := by
  have hjoined : (s.joined defaults names).constraints.get? t.name = some t.columns.constraints :=
    hmade.get?_constraints_iff.2 ⟨t, ht, rfl, rfl, hne⟩
  show ((ResolvedKeys.ofJoined (s.globals defaults) (s.joined defaults names)).constraints
    (s.joined defaults names).constraints).get? t.name = _
  rw [ResolvedKeys.get?_constraints]
  split
  · next g hg =>
      split
      · exact hjoined
      · next hgathered =>
          -- Only a declared table gathers constraints of its own.
          obtain ⟨⟨t', ht'⟩, -⟩ := gathered_origin hg (Bool.eq_false_iff.2 hgathered)
          rw [undeclared_of_made hmade ht] at ht'
          cases ht'
  · exact hjoined

theorem joinsSides_of_made_iff {made : List JoinTable}
    (hmade : (s.joined defaults names).MadeOf (s.globals defaults) (s.keyed defaults) made)
    {t : JoinTable} (ht : t ∈ made) :
    (s.resolve defaults names).schema.JoinsSides (s.globals defaults).constraints t.name
        (sideKey t.declaration.table t.declaration.relation)
        (sideKey t.declaration.other t.reciprocal) ↔
      (t.declaration.relation.resolve t.declaration.table).column ≠
        (t.reciprocal.resolve t.declaration.other).column := by
  obtain ⟨names', hcolumns⟩ := ofSides_of_made hmade ht
  have htable := get?_tables_of_made hmade ht
  constructor
  · rintro ⟨⟨t', ht', h⟩, -, -⟩ heq
    obtain rfl := Option.some.inj (htable.symm.trans ht')
    have hone : t.columns.fields.keys = [_] := JoinColumns.columns_of_eq hcolumns heq
    have htwo : t.columns.fields.keys = [_, _] := h.columns
    rw [hone] at htwo
    cases htwo
  · intro hne
    have hsides := JoinColumns.hasSides_of_ne hcolumns hne (s.globals defaults)
    refine ⟨⟨_, htable, hsides⟩, ⟨t.columns.fields, ?_, hsides.columns⟩, fun hon => ?_⟩
    · exact hmade.get?_keys_iff.2 (.inr ⟨t, ht, rfl, rfl⟩)
    · rw [hon] at hcolumns
      obtain ⟨hkeys, hall⟩ := JoinColumns.constraints_of_ne hcolumns hne
      have hnonempty : t.columns.constraints.isEmpty = false := by
        rw [Bool.eq_false_iff, Ne, OrderedMap.isEmpty_iff, hkeys]
        exact List.cons_ne_nil _ _
      exact ⟨_, get?_constraints_of_made hmade ht hnonempty, hkeys, hall⟩

end Schema

/-- What a compilation adds to the tables are join tables, and each has two sides exactly if its
two foreign keys have different names. -/
theorem compile_joinsSides_iff (c : Compiler) (s : Schema) (htables : s.tables.isEmpty = false)
    (hraw : s.isCompiled = false) :
    ∃ r, c.compile s = .ok r ∧
      r.schema.tables.keys = s.tables.keys ++ r.joinTables.map Prod.fst ∧
      ∀ name a b, (name, a, b) ∈ r.joinTables →
        ∃ ra rb, s.tables.JoinsTo a b ra ∧ s.tables.JoinsTo b a rb ∧
          (r.schema.JoinsSides (s.globals c.defaults).constraints name
              (sideKey a ra) (sideKey b rb) ↔
            (ra.resolve a).column ≠ (rb.resolve b).column) := by
  obtain ⟨r, hr, hschema, hnotes⟩ := c.compile_of_uncompiled htables hraw
  obtain ⟨made, hmade⟩ := s.madeOf_joined c.defaults c.names
  have hreports := Compilation.joinTables_eq_reports hnotes
  refine ⟨r, hr, ?_, fun name a b hmem => ?_⟩
  · rw [hschema, hreports]
    exact s.keys_tables_resolve_eq_reports c.defaults c.names
  · rw [hreports] at hmem
    obtain ⟨t, ht, heq⟩ := hmade.mem_reports_iff.1 hmem
    obtain ⟨rfl, rfl, rfl⟩ : t.name = name ∧ t.declaration.table = a ∧ t.declaration.other = b := by
      simpa using heq
    refine ⟨t.declaration.relation, t.reciprocal, (hmade.joins t ht).joins_declaration,
      (hmade.joins t ht).joins_reciprocal, ?_⟩
    rw [hschema]
    exact Schema.joinsSides_of_made_iff hmade ht

/-- A pair of which one side names its column. -/
def enrolment : Schema :=
  ({} : Schema)
    |>.addTable "student" (({} : Table).hasManyToMany "course" { column := some "attendee" })
    |>.addTable "course" (({} : Table).hasManyToMany "student" { cascade := .cascade })

theorem compile_enrolment_joinsSides :
    enrolment.tables.isEmpty = false ∧ enrolment.isCompiled = false ∧
      ∃ r, ({ names := .counting } : Compiler).compile enrolment = .ok r ∧
        ("student_to_course", "student", "course") ∈ r.joinTables ∧
        r.schema.JoinsSides true "student_to_course"
          (sideKey "student" { column := some "attendee" })
          (sideKey "course" { cascade := .cascade }) := by
  refine ⟨by decide, by decide, ?_⟩
  obtain ⟨r, hr, -, hall⟩ :=
    compile_joinsSides_iff { names := .counting } enrolment (by decide) (by decide)
  have hmem : ("student_to_course", "student", "course") ∈ r.joinTables := by
    obtain rfl := Except.ok.inj hr
    decide
  obtain ⟨ra, rb, ha, hb, hiff⟩ := hall _ _ _ hmem
  obtain rfl := ha.unique ⟨_, rfl, rfl⟩
  obtain rfl := hb.unique ⟨_, rfl, rfl⟩
  exact ⟨r, hr, hmem, hiff.2 (by decide)⟩

/-- A table that is joined to itself, and a pair whose sides give their columns one name. -/
def oneSided : Schema :=
  ({} : Schema)
    |>.addTable "user" (({} : Table).hasManyToMany "user" {})
    |>.addTable "task" (({} : Table).hasManyToMany "tag" { column := some "ref" })
    |>.addTable "tag" (({} : Table).hasManyToMany "task" { column := some "ref" })

theorem compile_oneSided_not_joinsSides :
    ∃ r, ({ names := .counting } : Compiler).compile oneSided = .ok r ∧
      r.joinTables = [("user_to_user", "user", "user"), ("task_to_tag", "task", "tag")] ∧
      (∃ t, r.schema.tables.get? "user_to_user" = some t ∧ t.fields.keys = ["user_id"] ∧
        t.options.primaryKey = some ["user_id", "user_id"]) ∧
      (∃ t, r.schema.tables.get? "task_to_tag" = some t ∧ t.fields.keys = ["ref"] ∧
        t.options.primaryKey = some ["ref", "ref"]) ∧
      ¬ r.schema.JoinsSides true "user_to_user" (sideKey "user" {}) (sideKey "user" {}) ∧
      ¬ r.schema.JoinsSides true "task_to_tag" (sideKey "task" { column := some "ref" })
        (sideKey "tag" { column := some "ref" }) := by
  refine ⟨_, rfl, by decide, ⟨_, rfl, by decide, by decide⟩, ⟨_, rfl, by decide, by decide⟩, ?_, ?_⟩
  · rintro ⟨-, ⟨key, hkey, hkeys⟩, -⟩
    obtain rfl := Option.some.inj hkey
    exact absurd hkeys (by decide)
  · rintro ⟨-, ⟨key, hkey, hkeys⟩, -⟩
    obtain rfl := Option.some.inj hkey
    exact absurd hkeys (by decide)

end SchemaDdl
