import SchemaDdl.Proofs.ReferenceTypes

/-!
# Which relation a foreign key column comes from

The relations of a table are taken one after another. One that finds no key is
passed over, and the others each store a column, and a constraint where there
are to be any. Relations may share a column, so what stands in the two maps at
the end is not what any one relation stored there.

Where a column stands and what it is are decided by different relations. A
column stands where the first relation of its name put it, and it is what the
last one made of it; and since a relation replaces column and constraint at
once, the constraint is the last one's too. `Agrees` says this of the relations
taken so far, `Agrees.add` that one relation more keeps it, and
`agrees_ofTable` is the run.

What a relation makes is told without the look-up that the program uses: the key
column that it copies is given by `KeyIndex.Refers`, which knows the two ways to
come to one and no errors.
-/

namespace SchemaDdl

/-! ## The key column that is referred to -/

/-- A foreign key column refers to the key column of its own name, and to the first if there is none
of its name. -/
inductive KeyIndex.Refers (keys : KeyIndex) (table column : String) : String → Field → Prop
  | named {columns : OrderedMap Field} {key : Field} (hcolumns : keys.get? table = some columns)
      (hkey : columns.get? column = some key) : keys.Refers table column column key
  | first {columns : OrderedMap Field} {referenced : String} {key : Field}
      (hcolumns : keys.get? table = some columns) (hnone : columns.get? column = none)
      (hfirst : columns.first? = some (referenced, key)) : keys.Refers table column referenced key

theorem KeyIndex.refers_of_referenced {keys : KeyIndex} {table referenced : String}
    {fk : ForeignKey} {key : Field} (h : keys.referenced table fk = .ok (referenced, key)) :
    keys.Refers table fk.column referenced key := by
  rw [KeyIndex.referenced] at h
  split at h
  · cases h
  · next columns hcolumns =>
      split at h
      · next field hfield =>
          obtain ⟨rfl, rfl⟩ := Prod.mk.inj (Except.ok.inj h)
          exact .named hcolumns hfield
      · next hnone =>
          split at h
          · next found hfound =>
              rw [Except.ok.inj h] at hfound
              exact .first hcolumns hnone hfound
          · cases h

/-! ## The relations that count -/

/-- The foreign keys that refer to a table with a key. -/
def KeyIndex.resolvable (keys : KeyIndex) (l : List (String × ForeignKey)) :
    List (String × ForeignKey) :=
  l.filter fun e => keys.HasKey e.1

/-- The last foreign key of that column. -/
def lastOf? (l : List (String × ForeignKey)) (column : String) : Option (String × ForeignKey) :=
  (l.filter fun e => e.2.column = column).getLast?

theorem KeyIndex.resolvable_concat (keys : KeyIndex) (l : List (String × ForeignKey))
    (e : String × ForeignKey) :
    keys.resolvable (l ++ [e]) =
      if keys.HasKey e.1 then keys.resolvable l ++ [e] else keys.resolvable l := by
  rw [resolvable, List.filter_append]
  split
  · next h => rw [List.filter_cons_of_pos (by simpa using h), List.filter_nil, resolvable]
  · next h => rw [List.filter_cons_of_neg (by simpa using h), List.filter_nil, List.append_nil,
      resolvable]

theorem lastOf?_concat (l : List (String × ForeignKey)) (e : String × ForeignKey)
    (column : String) :
    lastOf? (l ++ [e]) column = if column = e.2.column then some e else lastOf? l column := by
  rw [lastOf?, List.filter_append]
  split
  · next h => rw [List.filter_cons_of_pos (by simp [h]), List.filter_nil, List.getLast?_concat]
  · next h => rw [List.filter_cons_of_neg (by simpa using Ne.symm h), List.filter_nil,
      List.append_nil, lastOf?]

namespace GatheredKeys

/-! ## What is stored for a column -/

/-- Column and constraint of that name are made from the foreign key: both refer to one key column,
of which the column takes the type. -/
def Describes (keys : KeyIndex) (withConstraints : Bool) (g : GatheredKeys) (column : String)
    (e : String × ForeignKey) : Prop :=
  ∃ referenced key, keys.Refers e.1 column referenced key ∧
    (∃ f, g.fields.get? column = some f ∧ f.Alike key ∧ f.autoIncrement = none) ∧
    (withConstraints = true → ∃ c, g.constraints.get? column = some c ∧ c.column = column ∧
      c.referencedTable = e.1 ∧ c.referencedColumn = referenced ∧
      c.onDelete = e.2.cascade.onDelete ∧ c.onUpdate = .noAction)

/-- The columns stand in the order in which they were named first, those of relations without a key
left out; the constraints, if any are wanted, stand beside them; and of the relations of one column
the last describes both. -/
structure Agrees (keys : KeyIndex) (withConstraints : Bool) (l : List (String × ForeignKey))
    (g : GatheredKeys) : Prop where
  columns : g.fields.keys = ((keys.resolvable l).map fun e => e.2.column).eraseDups
  constrained : g.constraints.keys = if withConstraints then g.fields.keys else []
  described : ∀ column ∈ g.fields.keys, ∃ e, lastOf? (keys.resolvable l) column = some e ∧
    g.Describes keys withConstraints column e

variable {keys : KeyIndex} {withConstraints : Bool} {l : List (String × ForeignKey)}
  {g g' : GatheredKeys} {column : String} {e : String × ForeignKey}

theorem Describes.congr (h : g.Describes keys withConstraints column e)
    (hfields : g'.fields.get? column = g.fields.get? column)
    (hconstraints : g'.constraints.get? column = g.constraints.get? column) :
    g'.Describes keys withConstraints column e := by
  rw [Describes, hfields, hconstraints]
  exact h

/-! ## One relation after another -/

/-- A relation that finds a key describes its column from then on. -/
theorem describes_add {referenced : String} {key : Field}
    (he : keys.referenced e.1 e.2 = .ok (referenced, key)) (table : String) :
    (add keys withConstraints table g e).Describes keys withConstraints e.2.column e := by
  obtain ⟨hfields, hconstraints⟩ := add_ok he withConstraints table g
  refine ⟨referenced, key, KeyIndex.refers_of_referenced he, ?_, fun hon => ?_⟩
  · rw [hfields, OrderedMap.get?_insert, if_pos rfl]
    exact ⟨_, rfl, e.2.columnField_alike key, rfl⟩
  · rw [hconstraints, if_pos hon, OrderedMap.get?_insert, if_pos rfl]
    exact ⟨_, rfl, rfl, rfl, rfl, rfl, rfl⟩

/-- And what describes another column goes on doing so. -/
theorem Describes.add {e' : String × ForeignKey} (h : g.Describes keys withConstraints column e')
    (hne : column ≠ e.2.column) (table : String) :
    (GatheredKeys.add keys withConstraints table g e).Describes keys withConstraints column e' := by
  cases he : keys.referenced e.1 e.2 with
  | error error =>
      obtain ⟨hfields, hconstraints⟩ := add_error he withConstraints table g
      exact h.congr (by rw [hfields]) (by rw [hconstraints])
  | ok found =>
      obtain ⟨hfields, hconstraints⟩ := add_ok he withConstraints table g
      refine h.congr ?_ ?_
      · rw [hfields, OrderedMap.get?_insert, if_neg hne]
      · rw [hconstraints]
        split
        · rw [OrderedMap.get?_insert, if_neg hne]
        · rfl

theorem Agrees.add (h : g.Agrees keys withConstraints l) (table : String)
    (e : String × ForeignKey) :
    (GatheredKeys.add keys withConstraints table g e).Agrees keys withConstraints (l ++ [e]) := by
  cases he : keys.referenced e.1 e.2 with
  | error error =>
      obtain ⟨hfields, hconstraints⟩ := add_error he withConstraints table g
      have hnone : ¬ keys.HasKey e.1 := by
        intro hkey
        obtain ⟨found, hfound⟩ := KeyIndex.exists_referenced_iff.2 hkey
        cases he.symm.trans hfound
      refine ⟨?_, ?_, fun column hcolumn => ?_⟩
      · rw [hfields, h.columns, KeyIndex.resolvable_concat, if_neg hnone]
      · rw [hfields, hconstraints, h.constrained]
      · rw [hfields] at hcolumn
        obtain ⟨e', hlast, hdescribes⟩ := h.described column hcolumn
        rw [KeyIndex.resolvable_concat, if_neg hnone]
        exact ⟨e', hlast, hdescribes.congr (by rw [hfields]) (by rw [hconstraints])⟩
  | ok found =>
      obtain ⟨hfields, hconstraints⟩ := add_ok he withConstraints table g
      have hkey : keys.HasKey e.1 := KeyIndex.exists_referenced_iff.1 ⟨found, he⟩
      refine ⟨?_, ?_, fun column hcolumn => ?_⟩
      · rw [hfields, KeyIndex.resolvable_concat, if_pos hkey, List.map_append]
        exact OrderedMap.keys_insertAll_eraseDups h.columns [(e.2.column, _)]
      · cases withConstraints with
        | false => exact hconstraints ▸ h.constrained
        | true =>
            rw [hconstraints, hfields, if_pos rfl, OrderedMap.keys_insert, OrderedMap.keys_insert,
              h.constrained, if_pos rfl, if_pos rfl]
      · rw [KeyIndex.resolvable_concat, if_pos hkey, lastOf?_concat]
        by_cases hown : column = e.2.column
        · rw [if_pos hown, hown]
          exact ⟨e, rfl, describes_add he table⟩
        · rw [hfields, OrderedMap.mem_keys_insert] at hcolumn
          obtain ⟨e', hlast, hdescribes⟩ := h.described column (hcolumn.resolve_right hown)
          rw [if_neg hown]
          exact ⟨e', hlast, hdescribes.add hown table⟩

theorem Agrees.foldl (h : g.Agrees keys withConstraints l) (table : String)
    (l' : List (String × ForeignKey)) :
    (l'.foldl (GatheredKeys.add keys withConstraints table) g).Agrees keys withConstraints
      (l ++ l') := by
  induction l' generalizing l g with
  | nil => rwa [List.append_nil]
  | cons e r ih =>
      rw [List.foldl_cons, List.append_cons]
      exact ih (h.add table e)

/-- Columns and constraints of a table agree, whatever its relations are, whatever keys there are to
refer to and whether constraints are wanted or not. -/
theorem agrees_ofTable (ts : Tables) (keys : KeyIndex) (withConstraints : Bool)
    (names : NameSource) (table : String) :
    (ofTable ts keys withConstraints names table).Agrees keys withConstraints
      (ts.foreignKeys table) := by
  refine Agrees.foldl (l := []) ⟨rfl, ?_, fun column hcolumn => ?_⟩ table (ts.foreignKeys table)
  · cases withConstraints with
    | false => rfl
    | true => rfl
  · cases hcolumn

/-- Of three relations of one column the first has the place, the second the column, and the third
finds no key. -/
example :
    let article := (((({} : Table).hasOne "author" { column := some "person" }).hasOne "desk"
      {}).hasOne "editor" { column := some "person" }).hasOne "ghost" { column := some "person" }
    let key := OrderedMap.ofList [("id", Field.standardKey)]
    let g := ofTable (.ofList [("article", article)])
      (.ofList [("author", key), ("desk", key), ("editor", key)]) true .counting "article"
    g.fields.keys = ["person", "desk_id"] ∧
      (g.constraints.get? "person").map Constraint.referencedTable = some "editor" := by
  decide

end GatheredKeys

end SchemaDdl
