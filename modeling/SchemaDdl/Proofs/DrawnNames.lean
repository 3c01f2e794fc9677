import Mathlib.Data.List.Nodup
import SchemaDdl.Proofs.Resolution

/-!
# No name is drawn for two constraints

Names are drawn in two stages, for the join tables and then for the foreign keys
of one table after another, and not every name that is drawn is kept. A join
table that is given up at its second side has drawn a name for the first, and
of two foreign keys with one column the later replaces the constraint of the
earlier. So the names that are kept are no interval of the source, and neither
the number of constraints nor their order says which they are.

`Drawn` keeps an account instead. Between two states of a source every draw has
one owner, the table and the column that it was made for, and each constraint
owns a draw that has its name. Whether the owner still has its constraint is
not asked, so dropping a constraint costs nothing (`Drawn.mono`), and two stages
are put together by giving the draws of each to its own owners
(`Drawn.append`). A source that never repeats itself then names no two
constraints alike, and a constraint that was stored before has no place among
them, because it owns no draw.
-/

namespace SchemaDdl

namespace NameSource

/-- No two draws from here on give the same name. -/
def NeverRepeats (s : NameSource) : Prop :=
  ∀ m n, s.drawn ≤ m → s.drawn ≤ n → s.name m = s.name n → m = n

/-- Counted names differ: whatever stands in front of the digits, they spell the number. -/
theorem neverRepeats_counting : counting.NeverRepeats := by
  intro m n _ _ h
  have hvalue (k : Nat) :
      Nat.ofDigitChars 10 ((Nat.toDigits 10 (k + 1)).leftpad 15 '0') 0 = k + 1 := by
    rw [List.leftpad, Nat.ofDigitChars_append, Nat.ofDigitChars_replicate_zero, Nat.mul_zero,
      Nat.ofDigitChars_ten_toDigits]
  have hdigits := String.ofList_injective (String.append_right_inj "FK_" |>.1 h)
  have hsucc : m + 1 = n + 1 := by rw [← hvalue m, hdigits, hvalue n]
  exact Nat.succ.inj hsucc

end NameSource

/-! ## The account -/

/-- The constraints were named by draws between two states of a source, and each draw was made for
one table and column. -/
structure Drawn (before after : NameSource) (found? : String → String → Option Constraint) :
    Prop where
  name : after.name = before.name
  le : before.drawn ≤ after.drawn
  owned : ∃ owner : Nat → String × String, ∀ table column c, found? table column = some c →
    ∃ n, before.drawn ≤ n ∧ n < after.drawn ∧ c.name = before.name n ∧ owner n = (table, column)

namespace Drawn

variable {a b d : NameSource} {found found? found?' : String → String → Option Constraint}

theorem nothing (a : NameSource) : Drawn a a fun _ _ => none :=
  ⟨rfl, Nat.le_refl _, fun _ => ("", ""), fun _ _ _ h => by cases h⟩

theorem mono (h : Drawn a b found?)
    (hsub : ∀ table column c, found?' table column = some c → found? table column = some c) :
    Drawn a b found?' := by
  obtain ⟨owner, howned⟩ := h.owned
  exact ⟨h.name, h.le, owner, fun table column c hc => howned table column c (hsub _ _ _ hc)⟩

/-- Two stages one after another, with the constraints of both or fewer. -/
theorem append (h : Drawn a b found?) (h' : Drawn b d found?')
    (hsub : ∀ table column c, found table column = some c →
      found? table column = some c ∨ found?' table column = some c) :
    Drawn a d found := by
  obtain ⟨owner, howned⟩ := h.owned
  obtain ⟨owner', howned'⟩ := h'.owned
  refine ⟨h'.name.trans h.name, Nat.le_trans h.le h'.le,
    fun n => if n < b.drawn then owner n else owner' n, fun table column c hc => ?_⟩
  rcases hsub table column c hc with hc | hc
  · obtain ⟨n, hlo, hhi, hname, howner⟩ := howned table column c hc
    exact ⟨n, hlo, Nat.lt_of_lt_of_le hhi h'.le, hname, (if_pos hhi).trans howner⟩
  · obtain ⟨n, hlo, hhi, hname, howner⟩ := howned' table column c hc
    rw [h.name] at hname
    exact ⟨n, Nat.le_trans h.le hlo, hhi, hname, (if_neg (Nat.not_lt.2 hlo)).trans howner⟩

/-- One draw for one constraint. -/
theorem next (a : NameSource) {c : Constraint} (hc : c.name = a.next.1) (table column : String) :
    Drawn a a.next.2 fun table' column' =>
      if table' = table ∧ column' = column then some c else none := by
  refine ⟨rfl, Nat.le_succ _, fun _ => (table, column), fun table' column' c' hc' => ?_⟩
  split at hc'
  · next hplace =>
      rw [← Option.some.inj hc', hplace.1, hplace.2]
      exact ⟨a.drawn, Nat.le_refl _, Nat.lt_succ_self _, hc, rfl⟩
  · cases hc'

/-- If the source never repeats itself, constraints with one name are one. -/
theorem place_eq (h : Drawn a b found?) (ha : a.NeverRepeats) {table column table' column' : String}
    {c c' : Constraint} (hc : found? table column = some c)
    (hc' : found? table' column' = some c') (hname : c.name = c'.name) :
    table = table' ∧ column = column' := by
  obtain ⟨owner, howned⟩ := h.owned
  obtain ⟨n, hlo, -, hn, howner⟩ := howned table column c hc
  obtain ⟨n', hlo', -, hn', howner'⟩ := howned table' column' c' hc'
  rw [hn, hn'] at hname
  rw [ha n n' hlo hlo' hname, howner'] at howner
  exact ⟨(Prod.mk.inj howner).1.symm, (Prod.mk.inj howner).2.symm⟩

end Drawn

/-! ## Constraints of one table -/

/-- The constraints of a table, and none anywhere else. -/
def onlyIn (table : String) (constraints : OrderedMap Constraint) (name column : String) :
    Option Constraint :=
  if name = table then constraints.get? column else none

theorem Drawn.start (names : NameSource) (table : String) : Drawn names names (onlyIn table {}) :=
  (Drawn.nothing names).mono fun name column c hc => by
    rw [onlyIn] at hc
    split at hc
    · cases hc
    · cases hc

/-- A constraint that is stored with a name just drawn, in a column of its own or in place of
another constraint. -/
theorem Drawn.insert {a b : NameSource} {table column : String}
    {constraints : OrderedMap Constraint} (h : Drawn a b (onlyIn table constraints))
    {c : Constraint} (hc : c.name = b.next.1) :
    Drawn a b.next.2 (onlyIn table (constraints.insert column c)) := by
  refine h.append (Drawn.next b hc table column) fun name column' c' hc' => ?_
  rw [onlyIn, OrderedMap.get?_insert] at hc'
  split at hc'
  · next hname =>
      split at hc'
      · next hcolumn => exact .inr ((if_pos ⟨hname, hcolumn⟩).trans hc')
      · exact .inl ((if_pos hname).trans hc')
  · cases hc'

namespace JoinColumns

variable {keys : KeyIndex} {withConstraints : Bool} {names : NameSource} {table : String}

theorem drawn_addSide {side : String × Relation} {c c' : JoinColumns}
    (h : Drawn names c.names (onlyIn table c.constraints))
    (hc : addSide keys withConstraints c side = .ok c') :
    Drawn names c'.names (onlyIn table c'.constraints) := by
  obtain ⟨column, key, hkey⟩ := referenced_of_addSide hc
  rw [addSide_ok hkey] at hc
  rw [← Except.ok.inj hc]
  cases withConstraints with
  | false => exact h
  | true => exact h.insert rfl

theorem drawn_foldlM {sides : List (String × Relation)} {c c' : JoinColumns}
    (h : Drawn names c.names (onlyIn table c.constraints))
    (hc : sides.foldlM (addSide keys withConstraints) c = .ok c') :
    Drawn names c'.names (onlyIn table c'.constraints) := by
  induction sides generalizing c with
  | nil => exact Except.ok.inj hc ▸ h
  | cons side r ih =>
      obtain ⟨c₁, -, -, -, hside, hrest⟩ := foldlM_cons_ok hc
      exact ih (drawn_addSide h hside) hrest

/-- Giving a join table up keeps the names that were drawn before and no constraint. -/
theorem drawn_foldlM_error {sides : List (String × Relation)} {c : JoinColumns}
    {error : SchemaError} {names' : NameSource}
    (h : Drawn names c.names (onlyIn table c.constraints))
    (hc : sides.foldlM (addSide keys withConstraints) c = .error (error, names')) :
    Drawn names names' fun _ _ => none := by
  induction sides generalizing c with
  | nil => cases hc
  | cons side r ih =>
      rw [List.foldlM_cons] at hc
      cases hside : addSide keys withConstraints c side with
      | ok c₁ =>
          rw [hside] at hc
          exact ih (drawn_addSide h hside) hc
      | error e =>
          rw [hside] at hc
          cases hkey : keys.referenced side.1 (side.2.resolve side.1) with
          | ok found =>
              rw [addSide_ok hkey] at hside
              cases hside
          | error cause =>
              rw [addSide_error hkey] at hside
              cases hside
              cases hc
              exact h.mono fun _ _ _ hnone => by cases hnone

end JoinColumns

/-! ## Join tables -/

namespace JoinedTables

variable {globals : Settings} {names : NameSource}

/-- A declaration adds a join table, or leaves a note and the names of one that was given up. -/
theorem add_cases (globals : Settings) (j : JoinedTables) (d : ManyToMany) :
    (∃ t, j.Free globals d t ∧ j.add globals d = j.adding globals t) ∨
      ∃ names notes, j.add globals d = { j with names, notes } ∧
        (names = j.names ∨ ∃ sides error, JoinColumns.ofSides j.keys globals.constraints j.names
          sides = .error (error, names)) := by
  by_cases hfree : ∃ t, j.Free globals d t
  · obtain ⟨t, ht⟩ := hfree
    exact .inl ⟨t, ht, add_of_free ht⟩
  · refine .inr ?_
    rw [add]
    split
    · exact ⟨_, _, rfl, .inl rfl⟩
    · next hmade =>
        split
        · exact ⟨_, _, rfl, .inl rfl⟩
        · next reciprocal hreciprocal =>
            dsimp only
            split
            · exact ⟨_, _, rfl, .inl rfl⟩
            · next hname =>
                rw [make]
                split
                · next hsides => exact ⟨_, _, rfl, .inr ⟨_, _, hsides⟩⟩
                · next c hc =>
                    refine absurd ⟨⟨d, reciprocal, c⟩, ?_⟩ hfree
                    exact ⟨rfl, Bool.eq_false_iff.2 hmade, hreciprocal,
                      fun hmem => hname (OrderedMap.contains_iff.2 hmem), hc⟩

theorem drawn_add {j : JoinedTables}
    (h : Drawn names j.names (ConstraintIndex.constraint? j.constraints)) (d : ManyToMany) :
    Drawn names (j.add globals d).names
      (ConstraintIndex.constraint? (j.add globals d).constraints) := by
  rcases add_cases globals j d with ⟨t, ht, hadd⟩ | ⟨names', notes, hadd, hnames⟩
  · rw [hadd]
    have hcolumns := JoinColumns.drawn_foldlM (Drawn.start j.names t.name) ht.columns
    refine h.append hcolumns fun name column c hc => ?_
    rw [JoinedTables.adding] at hc
    split at hc
    · exact .inl hc
    · rw [ConstraintIndex.constraint?, OrderedMap.get?_insert] at hc
      split at hc
      · next hname => exact .inr ((if_pos hname).trans hc)
      · exact .inl hc
  · rw [hadd]
    rcases hnames with rfl | ⟨sides, error, hsides⟩
    · exact h
    · have hgiven := JoinColumns.drawn_foldlM_error (Drawn.start j.names "") hsides
      exact h.append hgiven fun _ _ _ hc => .inl hc

theorem drawn_ofKeyed (globals : Settings) (names : NameSource) (k : KeyedTables) :
    Drawn names (ofKeyed globals names k).names
      (ConstraintIndex.constraint? (ofKeyed globals names k).constraints) :=
  List.foldlRecOn
    (motive := fun j : JoinedTables =>
      Drawn names j.names (ConstraintIndex.constraint? j.constraints))
    k.tables.manyToMany _ ((Drawn.nothing names).mono fun _ _ _ h => by cases h)
    fun _ h d _ => drawn_add h d

end JoinedTables

/-! ## Foreign keys -/

namespace GatheredKeys

variable {names : NameSource} {table : String}

theorem drawn_add {g : GatheredKeys} (h : Drawn names g.names (onlyIn table g.constraints))
    (keys : KeyIndex) (withConstraints : Bool) (e : String × ForeignKey) :
    Drawn names (add keys withConstraints table g e).names
      (onlyIn table (add keys withConstraints table g e).constraints) := by
  rw [add]
  split
  · exact h
  · cases withConstraints with
    | false => exact h
    | true => exact h.insert rfl

theorem drawn_ofTable (ts : Tables) (keys : KeyIndex) (withConstraints : Bool)
    (names : NameSource) (table : String) :
    Drawn names (ofTable ts keys withConstraints names table).names
      (onlyIn table (ofTable ts keys withConstraints names table).constraints) :=
  List.foldlRecOn
    (motive := fun g : GatheredKeys => Drawn names g.names (onlyIn table g.constraints))
    (ts.foreignKeys table) _ (Drawn.start names table) fun _ h e _ => drawn_add h keys _ e

end GatheredKeys

namespace ResolvedKeys

/-- What was gathered for a column of a table. -/
def constraint? (r : ResolvedKeys) (name column : String) : Option Constraint :=
  r.foreign.lookup name >>= fun g => g.constraints.get? column

variable {names : NameSource}

theorem drawn_add {r : ResolvedKeys} (h : Drawn names r.names r.constraint?) (j : JoinedTables)
    (globals : Settings) (e : String × Table) :
    Drawn names (add j globals r e).names (add j globals r e).constraint? := by
  refine h.append (GatheredKeys.drawn_ofTable j.tables j.keys
    (e.2.options.settings.constraints.getD globals.constraints) r.names e.1)
    fun name column c hc => ?_
  obtain ⟨g, hg, hc⟩ := Option.bind_eq_some_iff.1 hc
  rw [add, List.lookup_append] at hg
  rcases Option.or_eq_some_iff.1 hg with hg | ⟨-, hg⟩
  · exact .inl (Option.bind_eq_some_iff.2 ⟨g, hg, hc⟩)
  · obtain ⟨rfl, rfl⟩ := Prod.mk.inj (List.mem_singleton.1 (mem_of_lookup hg))
    exact .inr ((if_pos rfl).trans hc)

theorem drawn_ofJoined (globals : Settings) (j : JoinedTables) :
    Drawn j.names (ofJoined globals j).names (ofJoined globals j).constraint? :=
  List.foldlRecOn (motive := fun r : ResolvedKeys => Drawn j.names r.names r.constraint?)
    j.tables.entries _ ((Drawn.nothing j.names).mono fun _ _ _ h => by cases h)
    fun _ h e _ => drawn_add h j globals e

/-- A constraint that is stored in the end was gathered or made with a join table. -/
theorem constraint?_constraints (globals : Settings) (j : JoinedTables) {name column : String}
    {c : Constraint}
    (h : ConstraintIndex.constraint? ((ofJoined globals j).constraints j.constraints) name column =
      some c) :
    ConstraintIndex.constraint? j.constraints name column = some c ∨
      (ofJoined globals j).constraint? name column = some c := by
  rw [ConstraintIndex.constraint?, get?_constraints] at h
  split at h
  · next g hg =>
      split at h
      · exact .inl h
      · rw [Option.bind_eq_bind, Option.bind_some, OrderedMap.get?_extend] at h
        rcases Option.or_eq_some_iff.1 h with hc | ⟨-, hc⟩
        · exact .inr (Option.bind_eq_some_iff.2 ⟨g, hg, hc⟩)
        · refine .inl ?_
          rw [ConstraintIndex.constraint?]
          cases hindex : j.constraints.get? name with
          | some constraints =>
              rw [hindex] at hc
              exact hc
          | none =>
              rw [hindex] at hc
              cases hc
  · exact .inl h

end ResolvedKeys

/-! ## The names of an index -/

namespace ConstraintIndex

/-- The names of the constraints of all tables. -/
def names (i : ConstraintIndex) : List String :=
  i.entries.flatMap fun e => e.2.values.map Constraint.name

variable {i : ConstraintIndex}

theorem constraint?_of_mem {e : String × OrderedMap Constraint} (he : e ∈ i.entries)
    {f : String × Constraint} (hf : f ∈ e.2.entries) : constraint? i e.1 f.1 = some f.2 :=
  Option.bind_eq_some_iff.2
    ⟨e.2, OrderedMap.mem_entries_iff.1 he, OrderedMap.mem_entries_iff.1 hf⟩

theorem mem_names_iff {x : String} :
    x ∈ names i ↔ ∃ table column c, constraint? i table column = some c ∧ c.name = x := by
  rw [names, List.mem_flatMap]
  constructor
  · rintro ⟨e, he, hx⟩
    obtain ⟨c, hc, rfl⟩ := List.mem_map.1 hx
    obtain ⟨f, hf, rfl⟩ := List.mem_map.1 hc
    exact ⟨e.1, f.1, f.2, constraint?_of_mem he hf, rfl⟩
  · rintro ⟨table, column, c, hc, rfl⟩
    obtain ⟨constraints, htable, hcolumn⟩ := Option.bind_eq_some_iff.1 hc
    refine ⟨(table, constraints), OrderedMap.mem_entries_iff.2 htable, List.mem_map_of_mem ?_⟩
    exact List.mem_map_of_mem (f := Prod.snd) (OrderedMap.mem_entries_iff.2 hcolumn)

end ConstraintIndex

namespace Drawn

variable {a b : NameSource} {i : ConstraintIndex}

theorem name_of_mem (h : Drawn a b (ConstraintIndex.constraint? i)) {x : String}
    (hx : x ∈ ConstraintIndex.names i) : ∃ n, a.drawn ≤ n ∧ n < b.drawn ∧ x = a.name n := by
  obtain ⟨table, column, c, hc, rfl⟩ := ConstraintIndex.mem_names_iff.1 hx
  obtain ⟨owner, howned⟩ := h.owned
  obtain ⟨n, hlo, hhi, hname, -⟩ := howned table column c hc
  exact ⟨n, hlo, hhi, hname⟩

theorem nodup_names (h : Drawn a b (ConstraintIndex.constraint? i)) (ha : a.NeverRepeats) :
    (ConstraintIndex.names i).Nodup := by
  rw [ConstraintIndex.names, List.nodup_flatMap]
  refine ⟨fun e he => ?_, ?_⟩
  · rw [List.Nodup, List.pairwise_map, OrderedMap.values, List.pairwise_map]
    refine (List.pairwise_map.1 e.2.nodup).imp_of_mem fun {f f'} hf hf' hne hname => hne ?_
    exact (h.place_eq ha (ConstraintIndex.constraint?_of_mem he hf)
      (ConstraintIndex.constraint?_of_mem he hf') hname).2
  · refine (List.pairwise_map.1 i.nodup).imp_of_mem fun {e e'} he he' hne => ?_
    refine List.disjoint_left.2 fun x hx hx' => hne ?_
    obtain ⟨c, hc, rfl⟩ := List.mem_map.1 hx
    obtain ⟨c', hc', hname⟩ := List.mem_map.1 hx'
    obtain ⟨f, hf, rfl⟩ := List.mem_map.1 hc
    obtain ⟨f', hf', rfl⟩ := List.mem_map.1 hc'
    exact (h.place_eq ha (ConstraintIndex.constraint?_of_mem he hf)
      (ConstraintIndex.constraint?_of_mem he' hf') hname.symm).1

end Drawn

/-! ## The result -/

theorem Schema.drawn_resolve (s : Schema) (defaults : Settings) (names : NameSource) :
    Drawn names (s.resolve defaults names).names (s.resolve defaults names).schema.constraint? :=
  (JoinedTables.drawn_ofKeyed (s.globals defaults) names (s.keyed defaults)).append
    (ResolvedKeys.drawn_ofJoined (s.globals defaults) (s.joined defaults names))
    fun _ _ _ hc => ResolvedKeys.constraint?_constraints _ _ hc

/-- The constraints of a compiled schema have names that all differ and were all drawn while it was
compiled, if the source never repeats itself. -/
theorem compile_nodup_names (c : Compiler) (s : Schema) (htables : s.tables.isEmpty = false)
    (hraw : s.isCompiled = false) (hnames : c.names.NeverRepeats) :
    ∃ r, c.compile s = .ok r ∧ r.schema.options.constraints.names.Nodup ∧
      r.compiler.names.name = c.names.name ∧
      ∀ x ∈ r.schema.options.constraints.names,
        ∃ n, c.names.drawn ≤ n ∧ n < r.compiler.names.drawn ∧ x = c.names.name n := by
  obtain ⟨r, hr, hschema, -⟩ := c.compile_of_uncompiled htables hraw
  have hdrawn := s.drawn_resolve c.defaults c.names
  refine ⟨r, hr, ?_⟩
  rw [hschema, Compiler.compiler_of_compile hr hraw]
  exact ⟨hdrawn.nodup_names hnames, hdrawn.name, fun x hx => hdrawn.name_of_mem hx⟩

/-- Two foreign keys of one column, a join table that is given up at its second side, and a
constraint stored before. -/
def transport : Schema :=
  ({ options := { constraints := .ofList [("trip", .ofList [("from", ForeignKey.constraint
      ⟨"from", false, none, .restrict⟩ "FK_000000000000001" "city" "id")])] } } : Schema)
    |>.addTable "city" ((({} : Table).hasMany "trip" { column := some "from" }).hasManyToMany "line"
      {} |>.hasManyToMany "zone" {})
    |>.addTable "port" (({} : Table).hasMany "trip" { column := some "from" })
    |>.addTable "line" (({} : Table).hasManyToMany "city" {})
    |>.addTable "zone" (({ options := { primaryKey := some [] } } : Table).hasManyToMany "city" {})
    |>.addTable "trip" ((({} : Table).belongsTo "city").belongsTo "port")

theorem compile_transport_nodup_names :
    transport.tables.isEmpty = false ∧ transport.isCompiled = false ∧
      NameSource.counting.NeverRepeats ∧
      ∃ r, ({ names := .counting } : Compiler).compile transport = .ok r ∧
        r.schema.options.constraints.names.Nodup ∧
        r.schema.options.constraints.names.length = 3 ∧ r.compiler.names.drawn = 5 := by
  refine ⟨by decide, by decide, NameSource.neverRepeats_counting, ?_⟩
  obtain ⟨r, hr, hnodup, -⟩ := compile_nodup_names { names := .counting } transport (by decide)
    (by decide) NameSource.neverRepeats_counting
  refine ⟨r, hr, hnodup, ?_⟩
  obtain rfl := Except.ok.inj hr
  decide

end SchemaDdl
