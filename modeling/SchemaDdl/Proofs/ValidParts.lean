import SchemaDdl.Proofs.CompiledNames

/-!
# What validation leaves of a schema

A part of a schema has some of its tables, and of each of them some of the fields
and relations, all in the order in which they were declared. Everything that has no
name of its own stays: the options of the schema and of its tables, and the lists
of referenced tables. Validation answers with the largest part in which all names
are identifiers, and fails only if tables were declared and no name of them is one.

`Schema.IsValidPart` describes this part from outside, by the names that stay;
`Schema.PartOf` compares it with the other parts. Both speak of identifiers as they
are spelled, `Identifier.IsName`, and not of the check.
-/

namespace SchemaDdl

/-! ## How an identifier is spelled -/

namespace Identifier

def IsLetter (c : Char) : Prop := ('a' ≤ c ∧ c ≤ 'z') ∨ ('A' ≤ c ∧ c ≤ 'Z')

def IsDigit (c : Char) : Prop := '0' ≤ c ∧ c ≤ '9'

instance (c : Char) : Decidable (IsDigit c) := inferInstanceAs (Decidable (_ ∧ _))

/-- Letters, digits and underscores, at least one of them and at most 64 bytes, with no digit in
front. -/
structure IsName (name : String) : Prop where
  ne_empty : name ≠ ""
  size_le : name.utf8ByteSize ≤ 64
  spelled : ∀ c ∈ name.toList, IsLetter c ∨ IsDigit c ∨ c = '_'
  head : ∀ c ∈ name.toList.head?, ¬ IsDigit c

theorem isAlpha_iff {c : Char} : c.isAlpha = true ↔ IsLetter c := by
  have hupper : c.isUpper = true ↔ 'A' ≤ c ∧ c ≤ 'Z' := decide_eq_true_iff
  have hlower : c.isLower = true ↔ 'a' ≤ c ∧ c ≤ 'z' := by
    show (decide ('a' ≤ c) && decide (c ≤ 'z')) = true ↔ _
    rw [Bool.and_eq_true, decide_eq_true_eq, decide_eq_true_eq]
  show (c.isUpper || c.isLower) = true ↔ _
  rw [Bool.or_eq_true, hupper, hlower, IsLetter, or_comm]

theorem isDigit_iff {c : Char} : c.isDigit = true ↔ IsDigit c := by
  show (decide ('0' ≤ c) && decide (c ≤ '9')) = true ↔ _
  rw [Bool.and_eq_true, decide_eq_true_eq, decide_eq_true_eq, IsDigit]

theorem isHead_iff {c : Char} : isHead c = true ↔ IsLetter c ∨ c = '_' := by
  simp only [isHead, Bool.or_eq_true, isAlpha_iff, decide_eq_true_eq]

theorem isTail_iff {c : Char} : isTail c = true ↔ IsLetter c ∨ IsDigit c ∨ c = '_' := by
  simp only [isTail, Char.isAlphanum, Bool.or_eq_true, isAlpha_iff, isDigit_iff,
    decide_eq_true_eq, or_assoc]

theorem IsLetter.not_isDigit {c : Char} (h : IsLetter c) : ¬ IsDigit c := by
  simp only [IsLetter, IsDigit, Char.le_def, UInt32.le_iff_toNat_le] at h ⊢
  have ha : 'a'.val.toNat = 97 := rfl
  have hA : 'A'.val.toNat = 65 := rfl
  have h9 : '9'.val.toNat = 57 := rfl
  omega

theorem isWord_iff {cs : List Char} : isWord cs = true ↔
    cs ≠ [] ∧ (∀ c ∈ cs, IsLetter c ∨ IsDigit c ∨ c = '_') ∧ ∀ c ∈ cs.head?, ¬ IsDigit c := by
  cases cs with
  | nil => simp [isWord]
  | cons c r =>
      have hhead : (IsLetter c ∨ c = '_') ↔ (IsLetter c ∨ IsDigit c ∨ c = '_') ∧ ¬ IsDigit c := by
        constructor
        · intro h
          rcases h with h | rfl
          · exact ⟨.inl h, h.not_isDigit⟩
          · exact ⟨.inr (.inr rfl), by decide⟩
        · tauto
      rw [isWord, Bool.and_eq_true, isHead_iff, hhead, List.all_eq_true]
      simp only [isTail_iff, ne_eq, reduceCtorEq, not_false_eq_true, true_and, List.forall_mem_cons,
        List.head?_cons, Option.mem_some_iff, forall_eq']
      tauto

theorem isValid_iff_isName {name : String} : isValid name = true ↔ IsName name := by
  have hempty : name.toList ≠ [] ↔ name ≠ "" := by simp
  rw [isValid, Bool.and_eq_true, decide_eq_true_eq, isWord_iff, hempty]
  constructor
  · intro h
    exact ⟨h.2.1, h.1, h.2.2.1, h.2.2.2⟩
  · intro h
    exact ⟨h.size_le, h.ne_empty, h.spelled, h.head⟩

instance (name : String) : Decidable (IsName name) := decidable_of_iff _ isValid_iff_isName

end Identifier

/-! ## Parts of a schema -/

/-- The names that the relation gives, where it gives any, are identifiers. -/
def Relation.GivesNames (r : Relation) : Prop :=
  (∀ name ∈ r.column, Identifier.IsName name) ∧ ∀ name ∈ r.joinTable, Identifier.IsName name

instance (r : Relation) : Decidable r.GivesNames := inferInstanceAs (Decidable (_ ∧ _))

/-- The first table has what is named by identifiers in the second, and nothing else. -/
structure Table.IsValidPart (t' t : Table) : Prop where
  options : t'.options = t.options
  manyToOne : t'.manyToOne = t.manyToOne
  fields : t'.fields.entries = t.fields.entries.filter fun e => Identifier.IsName e.1
  oneToMany : t'.oneToMany.entries = t.oneToMany.entries.filter fun e => e.2.GivesNames
  oneToOne : t'.oneToOne.entries = t.oneToOne.entries.filter fun e => e.2.GivesNames
  manyToMany : t'.manyToMany.entries = t.manyToMany.entries.filter fun e => e.2.GivesNames

structure Table.PartOf (t' t : Table) : Prop where
  options : t'.options = t.options
  manyToOne : t'.manyToOne = t.manyToOne
  fields : t'.fields.entries.Sublist t.fields.entries
  oneToMany : t'.oneToMany.entries.Sublist t.oneToMany.entries
  oneToOne : t'.oneToOne.entries.Sublist t.oneToOne.entries
  manyToMany : t'.manyToMany.entries.Sublist t.manyToMany.entries

namespace Schema

/-- The first schema has the tables of the second that are named by identifiers, and of each what
is named by identifiers in it. -/
structure IsValidPart (s' s : Schema) : Prop where
  options : s'.options = s.options
  names : s'.tables.keys = s.tables.keys.filter fun name => Identifier.IsName name
  tables : ∀ name t', s'.tables.get? name = some t' →
    ∃ t, s.tables.get? name = some t ∧ t'.IsValidPart t

structure PartOf (s' s : Schema) : Prop where
  options : s'.options = s.options
  names : s'.tables.keys.Sublist s.tables.keys
  tables : ∀ name t', s'.tables.get? name = some t' →
    ∃ t, s.tables.get? name = some t ∧ t'.PartOf t

/-- Of all parts in which every name is an identifier, the largest. -/
structure IsLargestPart (s' s : Schema) : Prop where
  wellNamed : s'.WellNamed
  part : s'.PartOf s
  largest : ∀ p : Schema, p.WellNamed → p.PartOf s → p.PartOf s'

/-- There are tables, and none of them is named by an identifier. -/
structure LosesAllTables (s : Schema) : Prop where
  declared : s.tables.keys ≠ []
  names : ∀ name ∈ s.tables.keys, ¬ Identifier.IsName name

end Schema

/-! ## What is left of a table -/

theorem Relation.isNamedWell_iff {r : Relation} : r.isNamedWell = true ↔ r.WellNamed := by
  refine ⟨Relation.wellNamed_of_isNamedWell, fun h => ?_⟩
  rw [isNamedWell, Option.isNone_iff_eq_none, nameError?, List.findSome?_eq_none_iff]
  intro name hname
  have hvalid : Identifier.isValid name = true := by
    rcases List.mem_append.1 hname with hname | hname
    · exact h.column name (Option.mem_toList.1 hname)
    · exact h.joinTable name (Option.mem_toList.1 hname)
  rw [Identifier.check_eq_ok_iff.2 hvalid]

theorem Relation.wellNamed_iff_givesNames {r : Relation} : r.WellNamed ↔ r.GivesNames := by
  simp only [GivesNames, ← Identifier.isValid_iff_isName]
  exact ⟨fun h => ⟨h.column, h.joinTable⟩, fun h => ⟨h.1, h.2⟩⟩

namespace Table

theorem isValidPart_validated (t : Table) : t.validated.IsValidPart t := by
  have hrelations (rs : OrderedMap Relation) : (rs.filter fun _ r => r.isNamedWell).entries =
      rs.entries.filter fun e => e.2.GivesNames := by
    refine List.filter_congr fun e _ => ?_
    rw [Bool.eq_iff_iff, decide_eq_true_eq, Relation.isNamedWell_iff,
      Relation.wellNamed_iff_givesNames]
  refine ⟨rfl, rfl, ?_, hrelations _, hrelations _, hrelations _⟩
  refine List.filter_congr fun e _ => ?_
  rw [Bool.eq_iff_iff, decide_eq_true_eq, Identifier.isValid_iff_isName]

theorem IsValidPart.partOf {t' t : Table} (h : t'.IsValidPart t) : t'.PartOf t := by
  refine ⟨h.options, h.manyToOne, ?_, ?_, ?_, ?_⟩
  · rw [h.fields]; exact List.filter_sublist
  · rw [h.oneToMany]; exact List.filter_sublist
  · rw [h.oneToOne]; exact List.filter_sublist
  · rw [h.manyToMany]; exact List.filter_sublist

theorem WellNamed.partOf_validated {p t : Table} (hp : p.WellNamed) (hpart : p.PartOf t) :
    p.PartOf t.validated := by
  have hrelations {rs rs' : OrderedMap Relation} (hsub : rs'.entries.Sublist rs.entries)
      (hall : ∀ other r, rs'.get? other = some r → r.WellNamed) :
      rs'.entries.Sublist (rs.filter fun _ r => r.isNamedWell).entries := by
    refine OrderedMap.sublist_entries_filter hsub fun other r h => ?_
    exact Relation.isNamedWell_iff.2 (hall other r h)
  refine ⟨hpart.options, hpart.manyToOne, ?_, hrelations hpart.oneToMany hp.oneToMany,
    hrelations hpart.oneToOne hp.oneToOne, hrelations hpart.manyToMany hp.manyToMany⟩
  refine OrderedMap.sublist_entries_filter hpart.fields fun name f h => ?_
  exact hp.columns name (OrderedMap.mem_keys_of_get? h)

theorem WellNamed.validated_eq {t : Table} (h : t.WellNamed) : t.validated = t := by
  have hrelations {rs : OrderedMap Relation}
      (hall : ∀ other r, rs.get? other = some r → r.WellNamed) :
      (rs.filter fun _ r => r.isNamedWell) = rs :=
    OrderedMap.filter_eq_self fun other r h => Relation.isNamedWell_iff.2 (hall other r h)
  have hfields : (t.fields.filter fun name _ => Identifier.isValid name) = t.fields :=
    OrderedMap.filter_eq_self fun name f h' => h.columns name (OrderedMap.mem_keys_of_get? h')
  rw [validated, hfields, hrelations h.oneToMany, hrelations h.oneToOne, hrelations h.manyToMany]

end Table

/-! ## What is left of a schema -/

namespace Schema

variable {s s' : Schema}

theorem keys_validTables (s : Schema) :
    s.validTables.keys = s.tables.keys.filter Identifier.isValid := OrderedMap.keys_filter _ _

theorem losesAllTables_iff :
    s.LosesAllTables ↔ (!s.tables.isEmpty && s.validTables.isEmpty) = true := by
  rw [Bool.and_eq_true, Bool.not_eq_true', ← Bool.not_eq_true, OrderedMap.isEmpty_iff,
    OrderedMap.isEmpty_iff, keys_validTables, List.filter_eq_nil_iff]
  simp only [Identifier.isValid_iff_isName]
  exact ⟨fun h => ⟨h.declared, h.names⟩, fun h => ⟨h.1, h.2⟩⟩

theorem validate_eq_error_iff : s.validate = .error .emptySchema ↔ s.LosesAllTables := by
  rw [losesAllTables_iff, validate]
  split
  · next h => exact iff_of_true rfl h
  · next h => exact iff_of_false (fun h' => by cases h') h

theorem exists_validate_of_not_losesAllTables (h : ¬ s.LosesAllTables) :
    ∃ s', s.validate = .ok s' := by
  rw [losesAllTables_iff] at h
  rw [validate, if_neg h]
  exact ⟨_, rfl⟩

theorem options_validate (h : s.validate = .ok s') : s'.options = s.options := by
  rw [validate] at h
  split at h
  · cases h
  · rw [← Except.ok.inj h]

theorem keys_tables_validate (h : s.validate = .ok s') :
    s'.tables.keys = s.tables.keys.filter Identifier.isValid := by
  rw [validate] at h
  split at h
  · cases h
  · rw [← Except.ok.inj h, OrderedMap.keys_map, keys_validTables]

theorem isValidPart_of_validate (h : s.validate = .ok s') : s'.IsValidPart s := by
  refine ⟨options_validate h, ?_, fun name t' ht' => ?_⟩
  · rw [keys_tables_validate h]
    refine List.filter_congr fun name _ => ?_
    rw [Bool.eq_iff_iff, decide_eq_true_eq, Identifier.isValid_iff_isName]
  · obtain ⟨-, t, ht, rfl⟩ := (get?_tables_validate h).1 ht'
    exact ⟨t, ht, t.isValidPart_validated⟩

theorem IsValidPart.partOf (h : s'.IsValidPart s) : s'.PartOf s := by
  refine ⟨h.options, ?_, fun name t' ht' => ?_⟩
  · rw [h.names]
    exact List.filter_sublist
  · obtain ⟨t, ht, hpart⟩ := h.tables name t' ht'
    exact ⟨t, ht, hpart.partOf⟩

theorem WellNamed.partOf_of_validate {p : Schema} (hp : p.WellNamed) (hpart : p.PartOf s)
    (h : s.validate = .ok s') : p.PartOf s' := by
  refine ⟨hpart.options.trans (options_validate h).symm, ?_, fun name t' ht' => ?_⟩
  · have hall : p.tables.keys.filter Identifier.isValid = p.tables.keys :=
      List.filter_eq_self.2 hp.names
    rw [keys_tables_validate h, ← hall]
    exact hpart.names.filter _
  · obtain ⟨t, ht, htpart⟩ := hpart.tables name t' ht'
    have hname := hp.names name (OrderedMap.mem_keys_of_get? ht')
    exact ⟨t.validated, (get?_tables_validate h).2 ⟨hname, t, ht, rfl⟩,
      (hp.tables name t' ht').partOf_validated htpart⟩

theorem isLargestPart_of_validate (h : s.validate = .ok s') : s'.IsLargestPart s where
  wellNamed := wellNamed_of_validate h
  part := (isValidPart_of_validate h).partOf
  largest _ hp hpart := hp.partOf_of_validate hpart h

/-- What needs no validation is not changed by it. -/
theorem WellNamed.validate_eq (h : s.WellNamed) : s.validate = .ok s := by
  have htables : s.validTables = s.tables :=
    OrderedMap.filter_eq_self fun name t ht => h.names name (OrderedMap.mem_keys_of_get? ht)
  have hvalidated : (s.tables.map fun _ t => t.validated) = s.tables :=
    OrderedMap.map_eq_self fun name t ht => (h.tables name t ht).validated_eq
  rw [validate, htables, hvalidated, if_neg (by simp)]

/-- Validation fails exactly if tables were declared and all of them are lost. Otherwise it answers
with the largest valid part, and has nothing to do on that. -/
theorem validate_largestPart (s : Schema) :
    (s.validate = .error .emptySchema ↔ s.LosesAllTables) ∧
      (¬ s.LosesAllTables → ∃ s', s.validate = .ok s' ∧ s'.IsValidPart s ∧ s'.IsLargestPart s ∧
        s'.validate = .ok s') ∧
      ∀ name, Identifier.check name = .ok () ↔ Identifier.IsName name := by
  refine ⟨validate_eq_error_iff, fun hkept => ?_, fun name => ?_⟩
  · obtain ⟨s', h⟩ := exists_validate_of_not_losesAllTables hkept
    have hlargest := isLargestPart_of_validate h
    exact ⟨s', h, isValidPart_of_validate h, hlargest, hlargest.wellNamed.validate_eq⟩
  · rw [Identifier.check_eq_ok_iff, Identifier.isValid_iff_isName]

/-- Names with a hyphen, with a blank and with a digit in front, at every place that has a name. -/
def clubhouse : Schema :=
  ({} : Schema)
    |>.addTable "member" (({} : Table)
      |>.withField "name" (.ofType "string") |>.withField "nick-name" (.ofType "string")
      |>.withField "joined" (.ofType "date") |>.hasMany "visit" { column := some "member id" }
      |>.hasMany "card" { column := some "holder_id" }
      |>.hasManyToMany "team" { joinTable := some "1st_teams" } |>.hasManyToMany "court" {})
    |>.addTable "guest list" (({} : Table).withField "name" (.ofType "string"))
    |>.addTable "visit" (({} : Table)
      |>.belongsTo "guest list" |>.hasOne "member" { column := some "" }
      |>.withField "day" (.ofType "date"))

/-- What is left of it. A list of referenced tables may go on naming one that is lost. -/
def clubhouseKept : Schema :=
  ({} : Schema)
    |>.addTable "member" (({} : Table)
      |>.withField "name" (.ofType "string") |>.withField "joined" (.ofType "date")
      |>.hasMany "card" { column := some "holder_id" } |>.hasManyToMany "court" {})
    |>.addTable "visit" (({} : Table).belongsTo "guest list" |>.withField "day" (.ofType "date"))

theorem validate_clubhouse :
    ¬ clubhouse.LosesAllTables ∧ clubhouse.validate = .ok clubhouseKept ∧
      clubhouseKept.IsLargestPart clubhouse ∧ clubhouseKept.validate = .ok clubhouseKept := by
  have hkept : ¬ clubhouse.LosesAllTables := fun h => h.names "visit" (by decide) (by decide)
  obtain ⟨s', h, -, hlargest, hagain⟩ := (validate_largestPart clubhouse).2.1 hkept
  have hvalidate : clubhouse.validate = .ok clubhouseKept := rfl
  obtain rfl := Except.ok.inj (hvalidate.symm.trans h)
  exact ⟨hkept, h, hlargest, hagain⟩

end Schema

end SchemaDdl
