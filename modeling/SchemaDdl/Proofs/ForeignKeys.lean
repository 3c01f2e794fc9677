import SchemaDdl.Compile.JoinTables
import SchemaDdl.Proofs.OrderedMap

/-!
# A constraint stands beside its column

A foreign key leaves two things behind, a column and a constraint, in two maps
under one name. Both are made from one look-up in the key index, and a later
foreign key of the same name replaces both at once, so whatever collides, the
constraint that stays and the column that stays come from the same foreign
key. `Matched` says this of two maps; it holds of empty maps and survives every
insertion that goes to both, which is all that the tables and the join tables
ever do.

The columns alone have a closed form. They depend on the foreign keys and on
the key index and on nothing else, neither on the names drawn so far nor on
whether constraints are wanted. The constraints have one too, once the names
are set aside: which constraints there are does not depend on the names, and
how many names are drawn depends on nothing but which constraints there are.
-/

namespace SchemaDdl

/-! ## The look-up -/

theorem KeyIndex.referenced_ok {keys : KeyIndex} {table column : String} {fk : ForeignKey}
    {key : Field} (h : keys.referenced table fk = .ok (column, key)) :
    ∃ columns, keys.get? table = some columns ∧ columns.get? column = some key := by
  rw [KeyIndex.referenced] at h
  split at h
  · cases h
  · next columns hcolumns =>
      refine ⟨columns, hcolumns, ?_⟩
      split at h
      · next field hfield =>
          obtain ⟨rfl, rfl⟩ := Prod.mk.inj (Except.ok.inj h)
          exact hfield
      · split at h
        · next found hfound =>
            rw [Except.ok.inj h] at hfound
            exact OrderedMap.get?_of_first? hfound
        · cases h

/-- Of a table with a key every foreign key finds a column. -/
theorem KeyIndex.referenced_of_key {keys : KeyIndex} {table : String} {columns : OrderedMap Field}
    (hcolumns : keys.get? table = some columns) (hne : columns.isEmpty = false) (fk : ForeignKey) :
    ∃ column key, keys.referenced table fk = .ok (column, key) := by
  obtain ⟨column, key, hfirst⟩ := OrderedMap.first?_isSome hne
  simp only [KeyIndex.referenced, hcolumns]
  cases columns.get? fk.column with
  | some field => exact ⟨fk.column, field, rfl⟩
  | none => exact ⟨column, key, by simp only [hfirst]⟩

theorem KeyIndex.referenced_congr {keys keys' : KeyIndex} {table : String}
    (h : keys.get? table = keys'.get? table) (fk : ForeignKey) :
    keys.referenced table fk = keys'.referenced table fk := by
  rw [KeyIndex.referenced, KeyIndex.referenced, h]

/-- The table is in the index, and with some column. -/
def KeyIndex.HasKey (keys : KeyIndex) (table : String) : Prop :=
  ∃ columns, keys.get? table = some columns ∧ columns.isEmpty = false

instance (keys : KeyIndex) (table : String) : Decidable (keys.HasKey table) :=
  decidable_of_iff ((keys.get? table).any fun columns => !columns.isEmpty) (by
    simp only [KeyIndex.HasKey, Option.any_eq_true, Bool.not_eq_true'])

theorem KeyIndex.exists_referenced_iff {keys : KeyIndex} {table : String} {fk : ForeignKey} :
    (∃ found, keys.referenced table fk = .ok found) ↔ keys.HasKey table := by
  constructor
  · rintro ⟨⟨column, key⟩, h⟩
    obtain ⟨columns, hcolumns, hcolumn⟩ := referenced_ok h
    exact ⟨columns, hcolumns, OrderedMap.isEmpty_eq_false_iff.2 ⟨column, key, hcolumn⟩⟩
  · rintro ⟨columns, hcolumns, hne⟩
    obtain ⟨column, key, h⟩ := referenced_of_key hcolumns hne fk
    exact ⟨(column, key), h⟩

/-! ## A constraint and the foreign key that it was made from -/

structure Constraint.FromKey (keys : KeyIndex) (fk : ForeignKey) (key : Field) (c : Constraint) :
    Prop where
  referenced : keys.referenced c.referencedTable fk = .ok (c.referencedColumn, key)
  column : c.column = fk.column
  onDelete : c.onDelete = fk.cascade.onDelete
  onUpdate : c.onUpdate = .noAction

theorem ForeignKey.fromKey_constraint {keys : KeyIndex} {fk : ForeignKey} {key : Field}
    {table column : String} (h : keys.referenced table fk = .ok (column, key)) (name : String) :
    (fk.constraint name table column).FromKey keys fk key :=
  ⟨h, rfl, rfl, rfl⟩

theorem Constraint.FromKey.mono {keys keys' : KeyIndex} {fk : ForeignKey} {key : Field}
    {c : Constraint} (h : c.FromKey keys fk key)
    (hkeys : ∀ table columns, keys.get? table = some columns → keys'.get? table = some columns) :
    c.FromKey keys' fk key := by
  obtain ⟨columns, hcolumns, -⟩ := KeyIndex.referenced_ok h.referenced
  refine { h with referenced := ?_ }
  rw [← h.referenced]
  exact KeyIndex.referenced_congr ((hkeys _ _ hcolumns).trans hcolumns.symm) fk

/-- Each constraint has a column beside it, made by `derive` from the same foreign key. -/
def Matched (keys : KeyIndex) (derive : ForeignKey → Field → Field) (fields : OrderedMap Field)
    (constraints : OrderedMap Constraint) : Prop :=
  ∀ column c, constraints.get? column = some c →
    ∃ fk key, c.FromKey keys fk key ∧ c.column = column ∧
      fields.get? column = some (derive fk key)

namespace Matched

variable {keys keys' : KeyIndex} {derive : ForeignKey → Field → Field} {fields : OrderedMap Field}
  {constraints : OrderedMap Constraint}

theorem empty : Matched keys derive fields {} := fun _ _ h => by cases h

theorem insert (h : Matched keys derive fields constraints) {fk : ForeignKey} {key : Field}
    {table column : String} (hkey : keys.referenced table fk = .ok (column, key)) (name : String) :
    Matched keys derive (fields.insert fk.column (derive fk key))
      (constraints.insert fk.column (fk.constraint name table column)) := by
  intro found c hc
  rw [OrderedMap.get?_insert] at hc ⊢
  split at hc
  · next hfound =>
      rw [← Option.some.inj hc]
      exact ⟨fk, key, fk.fromKey_constraint hkey name, hfound.symm, if_pos hfound⟩
  · next hfound =>
      rw [if_neg hfound]
      exact h found c hc

theorem mono (h : Matched keys derive fields constraints)
    (hkeys : ∀ table columns, keys.get? table = some columns → keys'.get? table = some columns) :
    Matched keys' derive fields constraints := by
  intro column c hc
  obtain ⟨fk, key, hfrom, hcolumn, hfield⟩ := h column c hc
  exact ⟨fk, key, hfrom.mono hkeys, hcolumn, hfield⟩

end Matched

/-! ## The foreign keys of a table -/

/-- The columns of foreign keys in order, those that refer to no key left out. -/
def KeyIndex.foreignColumns (keys : KeyIndex) (l : List (String × ForeignKey)) :
    List (String × Field) :=
  l.filterMap fun e =>
    match keys.referenced e.1 e.2 with
    | .ok (_, key) => some (e.2.column, e.2.columnField key)
    | .error _ => none

theorem KeyIndex.mem_foreignColumns_iff {keys : KeyIndex} {l : List (String × ForeignKey)}
    {column : String} :
    column ∈ (keys.foreignColumns l).map Prod.fst ↔
      ∃ e ∈ l, keys.HasKey e.1 ∧ e.2.column = column := by
  simp only [foreignColumns, List.mem_map, List.mem_filterMap]
  constructor
  · rintro ⟨field, ⟨e, he, hfield⟩, rfl⟩
    split at hfield
    · next found key hkey =>
        rw [← Option.some.inj hfield]
        exact ⟨e, he, exists_referenced_iff.1 ⟨_, hkey⟩, rfl⟩
    · cases hfield
  · rintro ⟨e, he, hkey, rfl⟩
    obtain ⟨⟨found, key⟩, hfound⟩ : ∃ found, keys.referenced e.1 e.2 = .ok found :=
      exists_referenced_iff.2 hkey
    exact ⟨(e.2.column, e.2.columnField key), ⟨e, he, by simp only [hfound]⟩, rfl⟩

/-- The constraints of foreign keys in order before they get their names, those that refer to no key
left out. -/
def KeyIndex.foreignConstraints (keys : KeyIndex) (withConstraints : Bool)
    (l : List (String × ForeignKey)) : List (String × Constraint) :=
  l.filterMap fun e =>
    match keys.referenced e.1 e.2 with
    | .ok (column, _) =>
      if withConstraints then some (e.2.column, e.2.constraint "" e.1 column) else none
    | .error _ => none

namespace NameSource

/-- The source with more names drawn. -/
def advance (names : NameSource) (n : Nat) : NameSource := { names with drawn := names.drawn + n }

theorem advance_next (names : NameSource) (n : Nat) :
    names.next.2.advance n = names.advance (n + 1) := by
  simp only [advance, next, Nat.add_right_comm, Nat.add_assoc]

/-- Constraints with a name drawn for each, in their order. -/
def naming (names : NameSource) : List (String × Constraint) → List (String × Constraint)
  | [] => []
  | e :: r => (e.1, { e.2 with name := names.next.1 }) :: names.next.2.naming r

end NameSource

/-! ## Indexes with the same columns

Which foreign keys find a key, and under which names their columns stand, depends on the names of
the key columns and not on their definitions. -/

def KeyIndex.SameColumns (keys keys' : KeyIndex) : Prop :=
  ∀ table, (keys.get? table).map OrderedMap.keys = (keys'.get? table).map OrderedMap.keys

namespace KeyIndex.SameColumns

variable {keys keys' : KeyIndex}

theorem symm (h : keys.SameColumns keys') : keys'.SameColumns keys := fun table => (h table).symm

theorem hasKey (h : keys.SameColumns keys') {table : String} (hkey : keys.HasKey table) :
    keys'.HasKey table := by
  obtain ⟨columns, hcolumns, hne⟩ := hkey
  have hsame := h table
  rw [hcolumns, Option.map_some] at hsame
  obtain ⟨columns', hcolumns', hkeys⟩ := Option.map_eq_some_iff.1 hsame.symm
  refine ⟨columns', hcolumns', Bool.eq_false_iff.2 fun hempty => ?_⟩
  rw [OrderedMap.isEmpty_iff, hkeys, ← OrderedMap.isEmpty_iff, hne] at hempty
  cases hempty

theorem hasKey_iff (h : keys.SameColumns keys') {table : String} :
    keys.HasKey table ↔ keys'.HasKey table := ⟨h.hasKey, h.symm.hasKey⟩

theorem map_fst_foreignColumns (h : keys.SameColumns keys') (l : List (String × ForeignKey)) :
    (keys.foreignColumns l).map Prod.fst = (keys'.foreignColumns l).map Prod.fst := by
  simp only [foreignColumns, List.map_filterMap]
  refine List.filterMap_congr fun e _ => ?_
  have hiff : (∃ found, keys.referenced e.1 e.2 = .ok found) ↔
      ∃ found, keys'.referenced e.1 e.2 = .ok found := by
    rw [exists_referenced_iff, exists_referenced_iff, h.hasKey_iff]
  cases hkey : keys.referenced e.1 e.2 with
  | ok found =>
      obtain ⟨found', hkey'⟩ := hiff.1 ⟨found, hkey⟩
      rw [hkey']
      rfl
  | error error =>
      cases hkey' : keys'.referenced e.1 e.2 with
      | ok found' =>
          obtain ⟨found, hfound⟩ := hiff.2 ⟨found', hkey'⟩
          rw [hkey] at hfound
          cases hfound
      | error error' => rfl

end KeyIndex.SameColumns

namespace GatheredKeys

variable {keys : KeyIndex} {withConstraints : Bool} {table : String}

theorem add_error {e : String × ForeignKey} {error : SchemaError}
    (h : keys.referenced e.1 e.2 = .error error) (withConstraints : Bool) (table : String)
    (g : GatheredKeys) :
    (add keys withConstraints table g e).fields = g.fields ∧
      (add keys withConstraints table g e).constraints = g.constraints := by
  rw [add, h]
  exact ⟨rfl, rfl⟩

theorem add_ok {e : String × ForeignKey} {column : String} {key : Field}
    (h : keys.referenced e.1 e.2 = .ok (column, key)) (withConstraints : Bool) (table : String)
    (g : GatheredKeys) :
    (add keys withConstraints table g e).fields =
        g.fields.insert e.2.column (e.2.columnField key) ∧
      (add keys withConstraints table g e).constraints =
        if withConstraints then
          g.constraints.insert e.2.column (e.2.constraint (g.names.name g.names.drawn) e.1 column)
        else g.constraints := by
  rw [add, h]
  cases withConstraints
  · exact ⟨rfl, rfl⟩
  · exact ⟨rfl, rfl⟩

theorem fields_foldl_add (l : List (String × ForeignKey)) (g : GatheredKeys) :
    (l.foldl (add keys withConstraints table) g).fields =
      g.fields.insertAll (keys.foreignColumns l) := by
  induction l generalizing g with
  | nil => rfl
  | cons e r ih =>
      rw [List.foldl_cons, ih]
      cases h : keys.referenced e.1 e.2 with
      | error error =>
          rw [(add_error h withConstraints table g).1]
          simp only [KeyIndex.foreignColumns, List.filterMap_cons, h]
      | ok found =>
          obtain ⟨column, key⟩ := found
          rw [(add_ok h withConstraints table g).1]
          simp only [KeyIndex.foreignColumns, List.filterMap_cons, h, OrderedMap.insertAll_cons]

/-- The columns gathered for a table, whatever names are drawn for their constraints. -/
theorem fields_ofTable (ts : Tables) (keys : KeyIndex) (withConstraints : Bool)
    (names : NameSource) (table : String) :
    (ofTable ts keys withConstraints names table).fields =
      .ofList (keys.foreignColumns (ts.foreignKeys table)) :=
  fields_foldl_add (ts.foreignKeys table) _

theorem constraints_foldl_add (l : List (String × ForeignKey)) (g : GatheredKeys) :
    (l.foldl (add keys withConstraints table) g).constraints =
        g.constraints.insertAll (g.names.naming (keys.foreignConstraints withConstraints l)) ∧
      (l.foldl (add keys withConstraints table) g).names =
        g.names.advance (keys.foreignConstraints withConstraints l).length := by
  induction l generalizing g with
  | nil => exact ⟨rfl, rfl⟩
  | cons e r ih =>
      obtain ⟨hconstraints, hnames⟩ := ih (add keys withConstraints table g e)
      rw [List.foldl_cons, hconstraints, hnames]
      cases h : keys.referenced e.1 e.2 with
      | error error =>
          simp only [KeyIndex.foreignConstraints, List.filterMap_cons, h, add, and_self]
      | ok found =>
          obtain ⟨column, key⟩ := found
          cases withConstraints with
          | false =>
              simp only [KeyIndex.foreignConstraints, List.filterMap_cons, h, add,
                Bool.false_eq_true, if_false, and_self]
          | true =>
              simp only [KeyIndex.foreignConstraints, List.filterMap_cons, h, add, if_true,
                NameSource.naming, OrderedMap.insertAll_cons, List.length_cons,
                ← NameSource.advance_next]
              exact ⟨rfl, trivial⟩

/-- The constraints gathered for a table take their names off the source one after another. -/
theorem constraints_ofTable (ts : Tables) (keys : KeyIndex) (withConstraints : Bool)
    (names : NameSource) (table : String) :
    (ofTable ts keys withConstraints names table).constraints = .ofList
        (names.naming (keys.foreignConstraints withConstraints (ts.foreignKeys table))) ∧
      (ofTable ts keys withConstraints names table).names = names.advance
        (keys.foreignConstraints withConstraints (ts.foreignKeys table)).length :=
  constraints_foldl_add (ts.foreignKeys table) _

/-- What holds of the maps before a foreign key is added and after it. -/
def Settled (keys : KeyIndex) (withConstraints : Bool) (g : GatheredKeys) : Prop :=
  Matched keys ForeignKey.columnField g.fields g.constraints ∧
    (withConstraints = false → g.constraints = {})

theorem Settled.add {g : GatheredKeys} (h : Settled keys withConstraints g)
    (e : String × ForeignKey) :
    Settled keys withConstraints (GatheredKeys.add keys withConstraints table g e) := by
  cases he : keys.referenced e.1 e.2 with
  | error error =>
      obtain ⟨hfields, hconstraints⟩ := add_error he withConstraints table g
      rw [Settled, hfields, hconstraints]
      exact h
  | ok found =>
      obtain ⟨column, key⟩ := found
      obtain ⟨hfields, hconstraints⟩ := add_ok he withConstraints table g
      rw [Settled, hfields, hconstraints]
      cases withConstraints with
      | false => exact ⟨h.2 rfl ▸ Matched.empty, fun _ => h.2 rfl⟩
      | true => exact ⟨h.1.insert he _, fun hfalse => by cases hfalse⟩

theorem settled_ofTable (ts : Tables) (keys : KeyIndex) (withConstraints : Bool)
    (names : NameSource) (table : String) :
    Settled keys withConstraints (ofTable ts keys withConstraints names table) := by
  refine List.foldlRecOn (ts.foreignKeys table) _ ?_ fun g hg e _ => hg.add e
  exact ⟨Matched.empty, fun _ => rfl⟩

end GatheredKeys

end SchemaDdl
