import SchemaDdl.Proofs.Answers

/-!
# A written schema is read back

Every part of a schema has a writer that leaves out what says nothing and a
reader that puts it back, and the two were written apart. Here each pair is
shown to belong together, the smallest first. What has to be looked at is
always the same: the names under which members are written are those under
which they are read, a member that is left out is one whose absence is read as
the value it had, and of values that are told apart by their kind alone no two
are written alike.

In a table and in a schema the names of columns and of tables stand beside names
that are taken, so these two ask that no name is one of them. `Storable` says
so, and it asks of floating point defaults that they are finite, since a
document has no other numbers.
-/

namespace SchemaDdl

section

variable {τ : Type} [Source τ]

/-! ## Values of several kinds -/

theorem sizeOfInt_toNat (n : UInt32) : sizeOfInt n.toNat = .ok n := by
  have hlt : (n.toNat : Int) < Length.sizeLimit := Int.ofNat_lt.2 n.toNat_lt
  rw [sizeOfInt, if_pos ⟨Int.natCast_nonneg _, hlt⟩, Int.toNat_natCast, UInt32.ofNat_toNat]

theorem lengthOfNode_toNode (l : Length) : lengthOfNode l.toNode = .ok l := by
  cases l with
  | size n =>
      simp only [Length.toNode, sizeNode, lengthOfNode, sizeOfInt_toNat]
      rfl
  | precision p s =>
      simp only [Length.toNode, sizeNode, lengthOfNode, sizeOfInt_toNat]
      rfl
  | modifier word => rfl

theorem defaultOfNode_toNode (v : DefaultValue) : defaultOfNode v.toNode = .ok v := by
  cases v with
  | bool b => rfl
  | integer n =>
      have hrange : Int64.minValue.toInt ≤ n.toInt ∧ n.toInt ≤ Int64.maxValue.toInt :=
        ⟨n.minValue_le_toInt, n.toInt_le⟩
      simp only [DefaultValue.toNode, defaultOfNode, if_pos hrange, Int64.ofInt_toInt]
  | float d => rfl
  | text s => rfl

theorem Length.reads (l : Length) : Reads (τ := τ) readLength Length.toNode l := by
  intro t h
  rw [readLength, h.node_eq]
  exact lengthOfNode_toNode l

theorem DefaultValue.reads (v : DefaultValue) :
    Reads (τ := τ) readDefault DefaultValue.toNode v := by
  intro t h
  rw [readDefault, h.node_eq]
  exact defaultOfNode_toNode v

theorem Length.toNode_ne_null (l : Length) : l.toNode ≠ .null := by
  cases l with
  | size => exact Node.noConfusion
  | precision => exact Node.noConfusion
  | modifier => exact Node.noConfusion

theorem DefaultValue.toNode_ne_null (v : DefaultValue) : v.toNode ≠ .null := by
  cases v with
  | bool => exact Node.noConfusion
  | integer => exact Node.noConfusion
  | float => exact Node.noConfusion
  | text => exact Node.noConfusion

/-! ## Members that may be left out -/

theorem optionalFlag {x : Option Bool} {v : Option τ}
    (h : Option.Rel Answers v (x.map .bool)) : optionalMember Source.flag v = .ok x :=
  Reads.optionalMember (fun b _ => reads_flag b) (fun _ => Node.noConfusion) h

theorem optionalText {x : Option String} {v : Option τ}
    (h : Option.Rel Answers v (x.map .text)) : optionalMember Source.text v = .ok x :=
  Reads.optionalMember (fun s _ => reads_text s) (fun _ => Node.noConfusion) h

theorem optionalLength {x : Option Length} {v : Option τ}
    (h : Option.Rel Answers v (x.map Length.toNode)) : optionalMember readLength v = .ok x :=
  Reads.optionalMember (fun l _ => l.reads) Length.toNode_ne_null h

theorem optionalDefault {x : Option DefaultValue} {v : Option τ}
    (h : Option.Rel Answers v (x.map DefaultValue.toNode)) :
    optionalMember readDefault v = .ok x :=
  Reads.optionalMember (fun d _ => d.reads) DefaultValue.toNode_ne_null h

/-! ## Fields, relations, constraints -/

theorem Field.names_members (f : Field) : f.members.map Prod.fst = Field.memberNames := rfl

theorem Field.reads (f : Field) : Reads (τ := τ) Field.read Field.toNode f := by
  intro t h
  obtain ⟨vs, hmembers, hvs⟩ := h.members_eq f.names_members (by decide)
  obtain _ | ⟨htype, _ | ⟨hlength, _ | ⟨hnull, _ | ⟨hunsigned, _ | ⟨hdefault, _ | ⟨hautoinc,
    _ | ⟨hunique, _ | _⟩⟩⟩⟩⟩⟩⟩ := hvs
  rw [Field.read, hmembers]
  simp only [bind, Except.bind, (reads_text f.typeName).requiredMember htype,
    optionalLength hlength, optionalFlag hnull, optionalFlag hunsigned, optionalDefault hdefault,
    optionalFlag hautoinc, optionalFlag hunique]
  rfl

/-- The three states of a cascade are written in three ways, one of them by writing nothing. -/
theorem Cascade.memberOr_eq {c : Cascade} {v : Option τ} (h : Option.Rel Answers v c.toNode?) :
    memberOr .restrict Cascade.read v = .ok c := by
  cases c with
  | cascade =>
      cases h with
      | some h =>
          cases h with
          | bool set flag =>
              simp only [memberOr, Cascade.read, set, flag]
              rfl
  | setNull =>
      cases h with
      | some h =>
          cases h with
          | null unset =>
              simp only [memberOr, Cascade.read, unset]
              rfl
  | restrict =>
      cases h with
      | none => rfl

theorem Relation.names_members (r : Relation) :
    r.members.map Prod.fst = Relation.memberNames := rfl

theorem Relation.reads (r : Relation) : Reads (τ := τ) Relation.read Relation.toNode r := by
  intro t h
  obtain ⟨vs, hmembers, hvs⟩ := h.members_eq r.names_members (by decide)
  obtain _ | ⟨hname, _ | ⟨hunique, _ | ⟨hdefault, _ | ⟨hcascade, _ | ⟨htable, _ | _⟩⟩⟩⟩⟩ := hvs
  rw [Relation.read, hmembers]
  simp only [bind, Except.bind, optionalText hname, optionalFlag hunique, optionalDefault hdefault,
    Cascade.memberOr_eq hcascade, optionalText htable]
  rfl

theorem ReferentialAction.ofText?_text (a : ReferentialAction) :
    ReferentialAction.ofText? a.text = some a := by
  cases a with
  | cascade => rfl
  | setNull => rfl
  | restrict => rfl
  | noAction => rfl

theorem ReferentialAction.reads (a : ReferentialAction) :
    Reads (τ := τ) ReferentialAction.read (fun a => .text a.text) a := by
  intro t h
  cases h with
  | text _ _ choice =>
      simp only [ReferentialAction.read, choice, bind, Except.bind, ReferentialAction.ofText?_text]
      rfl

def Constraint.members (c : Constraint) : List (String × Option Node) :=
  [("name", some (.text c.name)),
   ("fields", some (.text c.column)),
   ("reference_table", some (.text c.referencedTable)),
   ("reference_fields", some (.text c.referencedColumn)),
   ("on_delete", some (.text c.onDelete.text)),
   ("on_update", some (.text c.onUpdate.text))]

theorem Constraint.toNode_eq (c : Constraint) :
    c.toNode = .ofEntries (writtenMembers c.members) := rfl

theorem Constraint.names_members (c : Constraint) :
    c.members.map Prod.fst = Constraint.memberNames := rfl

theorem Constraint.reads (c : Constraint) :
    Reads (τ := τ) Constraint.read Constraint.toNode c := by
  intro t h
  rw [c.toNode_eq] at h
  obtain ⟨vs, hmembers, hvs⟩ := h.members_eq c.names_members (by decide)
  obtain _ | ⟨hname, _ | ⟨hcolumn, _ | ⟨htable, _ | ⟨hreferenced, _ | ⟨hdelete, _ | ⟨hupdate,
    _ | _⟩⟩⟩⟩⟩⟩ := hvs
  rw [Constraint.read, hmembers]
  simp only [bind, Except.bind, (reads_text c.name).requiredMember hname,
    (reads_text c.column).requiredMember hcolumn,
    (reads_text c.referencedTable).requiredMember htable,
    (reads_text c.referencedColumn).requiredMember hreferenced,
    c.onDelete.reads.requiredMember hdelete, c.onUpdate.reads.requiredMember hupdate]
  rfl

/-! ## Options -/

theorem KeyIndex.reads (keys : KeyIndex) : Reads (τ := τ) KeyIndex.read KeyIndex.toNode keys :=
  Reads.map fun _ _ => Reads.map fun e _ => e.2.reads

theorem ConstraintIndex.reads (constraints : ConstraintIndex) :
    Reads (τ := τ) ConstraintIndex.read ConstraintIndex.toNode constraints :=
  Reads.map fun _ _ => Reads.map fun e _ => e.2.reads

def SchemaOptions.members (o : SchemaOptions) : List (String × Option Node) :=
  o.settings.members ++
    [("pk", nonEmptyMap (mapNode Field.toNode) o.primaryKeys),
     ("fkConstraints", nonEmptyMap (mapNode Constraint.toNode) o.constraints)]

theorem SchemaOptions.names_members (o : SchemaOptions) :
    o.members.map Prod.fst = SchemaOptions.memberNames := rfl

theorem SchemaOptions.reads (o : SchemaOptions) :
    Reads (τ := τ) SchemaOptions.read SchemaOptions.toNode o := by
  intro t h
  obtain ⟨vs, hmembers, hvs⟩ := h.members_eq o.names_members (by decide)
  obtain _ | ⟨htimestamps, _ | ⟨hconstraints, _ | ⟨hcharset, _ | ⟨hcollate, _ | ⟨hengine,
    _ | ⟨hkeys, _ | ⟨hindex, _ | _⟩⟩⟩⟩⟩⟩⟩ := hvs
  rw [SchemaOptions.read, hmembers]
  simp only [bind, Except.bind, optionalFlag htimestamps, optionalFlag hconstraints,
    optionalText hcharset, optionalText hcollate, optionalText hengine,
    o.primaryKeys.reads.memberOr OrderedMap.eq_empty_of_isEmpty hkeys,
    o.constraints.reads.memberOr OrderedMap.eq_empty_of_isEmpty hindex]
  rfl

theorem Answers.eq_of_node {n m : Node} (h : Answers n m) : n = m := by
  have hnode :
      (if n.isReadable then .ok n else .error .outOfRange : Except ReadError Node) = .ok m :=
    h.node_eq
  split at hnode
  · exact Except.ok.inj hnode
  · cases hnode

theorem textList_textListNode (l : List String) : textList (textListNode l) = .ok l := by
  rw [textListNode, textList, List.mapM_map]
  induction l with
  | nil => rfl
  | cons s r ih =>
      rw [List.mapM_cons, ih]
      rfl

theorem reads_textList (l : List String) : Reads textList textListNode l := by
  intro n h
  rw [h.eq_of_node]
  exact textList_textListNode l

def TableOptions.members (o : TableOptions) : List (String × Option Node) :=
  ("pk", o.primaryKey.map textListNode) :: o.settings.members ++ [("m:m", o.joinTable.map .bool)]

theorem TableOptions.names_members (o : TableOptions) :
    o.members.map Prod.fst = TableOptions.memberNames := rfl

theorem TableOptions.reads (o : TableOptions) :
    Reads TableOptions.read TableOptions.toNode o := by
  intro n h
  obtain ⟨vs, hmembers, hvs⟩ := h.members_eq o.names_members (by decide)
  obtain _ | ⟨hkey, _ | ⟨htimestamps, _ | ⟨hconstraints, _ | ⟨hcharset, _ | ⟨hcollate,
    _ | ⟨hengine, _ | ⟨hjoin, _ | _⟩⟩⟩⟩⟩⟩⟩ := hvs
  rw [TableOptions.read, hmembers]
  simp only [bind, Except.bind,
    Reads.optionalMember (fun l _ => reads_textList l) (fun _ => Node.noConfusion) hkey,
    optionalFlag htimestamps, optionalFlag hconstraints, optionalText hcharset,
    optionalText hcollate, optionalText hengine, optionalFlag hjoin]
  rfl

end

/-! ## What is written is plain -/

namespace Node.Plain

theorem of_mem_writtenMembers {l : List (String × Option Node)}
    (h : ∀ e ∈ l, ∀ n ∈ e.2, n.Plain) {e : String × Node} (he : e ∈ writtenMembers l) :
    e.2.Plain := by
  obtain ⟨e', he', hsome⟩ := List.mem_filterMap.1 he
  obtain ⟨n, hn, rfl⟩ := Option.map_eq_some_iff.1 hsome
  exact h e' he' n hn

theorem written {l : List (String × Option Node)} {names : List String}
    (hnames : l.map Prod.fst = names) (hnodup : names.Nodup)
    (h : ∀ e ∈ l, ∀ n ∈ e.2, n.Plain) : (ofEntries (writtenMembers l)).Plain := by
  subst hnames
  exact .map (hnodup.sublist (keys_writtenMembers_sublist l)) fun _ he => of_mem_writtenMembers h he

/-- Members that are written among other pairs, all of them plain. -/
theorem written_append {l : List (String × Option Node)} {names : List String}
    {rest : List (String × Node)} (hnames : l.map Prod.fst = names)
    (hnodup : (names ++ rest.map Prod.fst).Nodup) (h : ∀ e ∈ l, ∀ n ∈ e.2, n.Plain)
    (hrest : ∀ e ∈ rest, e.2.Plain) : (ofEntries (writtenMembers l ++ rest)).Plain := by
  subst hnames
  refine .map (nodup_writtenMembers_append hnodup) fun e he => ?_
  exact (List.mem_append.1 he).elim (of_mem_writtenMembers h) (hrest e)

theorem mapNode {α : Type} {write : α → Node} {m : OrderedMap α}
    (h : ∀ e ∈ m.entries, (write e.2).Plain) : (mapNode write m).Plain := by
  refine .map ?_ fun e he => ?_
  · rw [List.map_map]
    exact m.nodup
  · obtain ⟨e', he', rfl⟩ := List.mem_map.1 he
    exact h e' he'

theorem leftOut {empty : Bool} {n : Node} (h : n.Plain) :
    ∀ n' ∈ (if empty then none else some n), n'.Plain := by
  intro n' hn'
  cases empty with
  | true => cases hn'
  | false => exact Option.some.inj hn' ▸ h

theorem optional {α : Type} {write : α → Node} {x : Option α} (h : ∀ a ∈ x, (write a).Plain) :
    ∀ n ∈ x.map write, n.Plain := by
  intro n hn
  obtain ⟨a, ha, rfl⟩ := Option.map_eq_some_iff.1 hn
  exact h a ha

theorem flag (x : Option Bool) : ∀ n ∈ x.map Node.bool, n.Plain := optional fun b _ => .bool b

theorem word (x : Option String) : ∀ n ∈ x.map Node.text, n.Plain := optional fun s _ => .text s

end Node.Plain

def DefaultValue.isFinite : DefaultValue → Bool
  | float d => d.isFinite
  | _ => true

def Field.isFinite (f : Field) : Bool := f.defaultValue.all DefaultValue.isFinite

def Relation.isFinite (r : Relation) : Bool := r.defaultValue.all DefaultValue.isFinite

theorem DefaultValue.plain {v : DefaultValue} (h : v.isFinite = true) : v.toNode.Plain := by
  cases v with
  | bool b => exact .bool b
  | integer n => exact .int n.minValue_le_toInt (Int.lt_of_le_of_lt n.toInt_le (by decide))
  | float d => exact .float h
  | text s => exact .text s

theorem Node.Plain.default {x : Option DefaultValue} (h : x.all DefaultValue.isFinite = true) :
    ∀ n ∈ x.map DefaultValue.toNode, n.Plain :=
  .optional fun v hv => DefaultValue.plain ((Option.all_eq_true _ _).1 h v hv)

theorem sizeNode_plain (n : UInt32) : (sizeNode n).Plain := by
  have hsize : UInt32.size ≤ UInt64.size := by decide
  refine .int (Int.le_trans (by decide) (Int.natCast_nonneg _)) ?_
  exact Int.ofNat_lt.2 (Nat.lt_of_lt_of_le n.toNat_lt hsize)

theorem Length.plain (l : Length) : l.toNode.Plain := by
  cases l with
  | size n => exact sizeNode_plain n
  | precision p s =>
      refine .list fun n hn => ?_
      rcases List.mem_cons.1 hn with rfl | hn
      · exact sizeNode_plain p
      · rw [List.mem_singleton.1 hn]
        exact sizeNode_plain s
  | modifier word => exact .text word

theorem Field.plain {f : Field} (h : f.isFinite = true) : f.toNode.Plain := by
  refine .written f.names_members (by decide) fun e he => ?_
  simp only [Field.members, List.mem_cons, List.not_mem_nil, or_false] at he
  rcases he with rfl | rfl | rfl | rfl | rfl | rfl | rfl
  · exact .word (some f.typeName)
  · exact .optional fun l _ => l.plain
  · exact .flag f.nullable
  · exact .flag f.unsigned
  · exact .default h
  · exact .flag f.autoIncrement
  · exact .flag f.unique

theorem Relation.plain {r : Relation} (h : r.isFinite = true) : r.toNode.Plain := by
  refine .written r.names_members (by decide) fun e he => ?_
  simp only [Relation.members, List.mem_cons, List.not_mem_nil, or_false] at he
  rcases he with rfl | rfl | rfl | rfl | rfl
  · exact .word r.column
  · exact .flag r.unique
  · exact .default h
  · cases r.cascade with
    | cascade => exact .flag (some true)
    | setNull => exact fun n hn => Option.some.inj hn ▸ .null
    | restrict => exact .flag none
  · exact .word r.joinTable

theorem Constraint.plain (c : Constraint) : c.toNode.Plain := by
  rw [c.toNode_eq]
  refine .written c.names_members (by decide) fun e he => ?_
  simp only [Constraint.members, List.mem_cons, List.not_mem_nil, or_false] at he
  rcases he with rfl | rfl | rfl | rfl | rfl | rfl
  · exact .word (some c.name)
  · exact .word (some c.column)
  · exact .word (some c.referencedTable)
  · exact .word (some c.referencedColumn)
  · exact .word (some c.onDelete.text)
  · exact .word (some c.onUpdate.text)

theorem textListNode_plain (l : List String) : (textListNode l).Plain := by
  refine .list fun n hn => ?_
  obtain ⟨s, -, rfl⟩ := List.mem_map.1 hn
  exact .text s

theorem Overrides.plain_members (o : Overrides) : ∀ e ∈ o.members, ∀ n ∈ e.2, n.Plain := by
  intro e he
  simp only [Overrides.members, List.mem_cons, List.not_mem_nil, or_false] at he
  rcases he with rfl | rfl | rfl | rfl | rfl
  · exact .flag o.timestamps
  · exact .flag o.constraints
  · exact .word o.charset
  · exact .word o.collate
  · exact .word o.engine

theorem TableOptions.plain (o : TableOptions) : o.toNode.Plain := by
  refine .written o.names_members (by decide) fun e he => ?_
  rcases List.mem_cons.1 he with rfl | he
  · exact .optional fun l _ => textListNode_plain l
  · rcases List.mem_append.1 he with he | he
    · exact o.settings.plain_members e he
    · rw [List.mem_singleton.1 he]
      exact .flag o.joinTable

theorem SchemaOptions.plain {o : SchemaOptions}
    (h : ∀ e ∈ o.primaryKeys.entries, ∀ e' ∈ e.2.entries, e'.2.isFinite = true) :
    o.toNode.Plain := by
  refine .written o.names_members (by decide) fun e he => ?_
  rcases List.mem_append.1 he with he | he
  · exact o.settings.plain_members e he
  · rcases List.mem_cons.1 he with rfl | he
    · exact .leftOut (.mapNode fun e he => .mapNode fun e' he' => Field.plain (h e he e' he'))
    · rw [List.mem_singleton.1 he]
      exact .leftOut (.mapNode fun _ _ => .mapNode fun e _ => e.2.plain)

/-! ## Tables and schemas -/

/-- A table whose columns have names of their own and whose defaults are all finite. -/
structure Table.Storable (t : Table) : Prop where
  columns : ∀ column ∈ t.fields.keys, column ∉ Table.reservedKeys
  fields : ∀ e ∈ t.fields.entries, e.2.isFinite = true
  oneToMany : ∀ e ∈ t.oneToMany.entries, e.2.isFinite = true
  oneToOne : ∀ e ∈ t.oneToOne.entries, e.2.isFinite = true
  manyToMany : ∀ e ∈ t.manyToMany.entries, e.2.isFinite = true

structure Schema.Storable (s : Schema) : Prop where
  names : Schema.optionsKey ∉ s.tables.keys
  tables : ∀ e ∈ s.tables.entries, e.2.Storable
  keys : ∀ e ∈ s.options.primaryKeys.entries, ∀ e' ∈ e.2.entries, e'.2.isFinite = true

instance (t : Table) : Decidable t.Storable :=
  decidable_of_iff
    ((∀ column ∈ t.fields.keys, column ∉ Table.reservedKeys) ∧
      (∀ e ∈ t.fields.entries, e.2.isFinite = true) ∧
      (∀ e ∈ t.oneToMany.entries, e.2.isFinite = true) ∧
      (∀ e ∈ t.oneToOne.entries, e.2.isFinite = true) ∧
      ∀ e ∈ t.manyToMany.entries, e.2.isFinite = true)
    ⟨fun ⟨h₁, h₂, h₃, h₄, h₅⟩ => ⟨h₁, h₂, h₃, h₄, h₅⟩,
      fun ⟨h₁, h₂, h₃, h₄, h₅⟩ => ⟨h₁, h₂, h₃, h₄, h₅⟩⟩

instance (s : Schema) : Decidable s.Storable :=
  decidable_of_iff
    (Schema.optionsKey ∉ s.tables.keys ∧ (∀ e ∈ s.tables.entries, e.2.Storable) ∧
      ∀ e ∈ s.options.primaryKeys.entries, ∀ e' ∈ e.2.entries, e'.2.isFinite = true)
    ⟨fun ⟨h₁, h₂, h₃⟩ => ⟨h₁, h₂, h₃⟩, fun ⟨h₁, h₂, h₃⟩ => ⟨h₁, h₂, h₃⟩⟩

theorem Table.names_members (t : Table) : t.members.map Prod.fst = Table.reservedKeys := rfl

def Schema.members (s : Schema) : List (String × Option Node) :=
  [(Schema.optionsKey, some s.options.toNode)]

theorem Schema.names_members (s : Schema) : s.members.map Prod.fst = [Schema.optionsKey] := rfl

/-- Columns are written with their names, none of which is reserved. -/
theorem Table.Storable.nodup_written {t : Table} (h : t.Storable) :
    (Table.reservedKeys ++
      (t.fields.entries.map fun e => (e.1, e.2.toNode)).map Prod.fst).Nodup := by
  rw [List.map_map, List.nodup_append]
  refine ⟨by decide, t.fields.nodup, fun name hname column hcolumn heq => ?_⟩
  exact h.columns column hcolumn (heq ▸ hname)

theorem Schema.Storable.nodup_written {s : Schema} (h : s.Storable) :
    ([Schema.optionsKey] ++
      (s.tables.entries.map fun e => (e.1, e.2.toNode)).map Prod.fst).Nodup := by
  rw [List.map_map, List.singleton_append, List.nodup_cons]
  exact ⟨h.names, s.tables.nodup⟩

theorem Table.Storable.plain {t : Table} (h : t.Storable) : t.toNode.Plain := by
  refine .written_append t.names_members h.nodup_written (fun e he => ?_) fun e he => ?_
  · simp only [Table.members, List.mem_cons, List.not_mem_nil, or_false] at he
    rcases he with rfl | rfl | rfl | rfl | rfl
    · exact .leftOut t.options.plain
    · exact .leftOut (textListNode_plain t.manyToOne)
    · exact .leftOut (.mapNode fun e he => Relation.plain (h.oneToMany e he))
    · exact .leftOut (.mapNode fun e he => Relation.plain (h.oneToOne e he))
    · exact .leftOut (.mapNode fun e he => Relation.plain (h.manyToMany e he))
  · obtain ⟨e', he', rfl⟩ := List.mem_map.1 he
    exact Field.plain (h.fields e' he')

theorem Schema.Storable.plain {s : Schema} (h : s.Storable) : s.toNode.Plain := by
  refine .written_append s.names_members h.nodup_written (fun e he => ?_) fun e he => ?_
  · rw [List.mem_singleton.1 he]
    exact fun n hn => Option.some.inj hn ▸ SchemaOptions.plain h.keys
  · obtain ⟨e', he', rfl⟩ := List.mem_map.1 he
    exact (h.tables e' he').plain

theorem Table.Storable.reads {t : Table} (h : t.Storable) : Reads Table.read Table.toNode t := by
  intro n hn
  obtain ⟨ps, hps, hunique, hreserved, hfields⟩ := hn.reserved_eq t.names_members h.nodup_written
    (fun name => !Table.reservedKeys.contains name) (fun name => by simp)
  obtain _ | ⟨hoptions, _ | ⟨hmanyToOne, _ | ⟨honeToMany, _ | ⟨honeToOne, _ | ⟨hmanyToMany,
    _ | _⟩⟩⟩⟩⟩ := hreserved
  have hrelations (m : OrderedMap Relation) :
      Reads (τ := Node) (readMap Relation.read) (mapNode Relation.toNode) m :=
    Reads.map fun e _ => e.2.reads
  have hread : List.Forall₂ (fun p e => p.1 = e.1 ∧ Field.read p.2 = .ok e.2)
      (ps.filter fun p => !Table.reservedKeys.contains p.1) t.fields.entries :=
    (List.forall₂_map_right_iff.1 hfields).imp fun p e hpe => ⟨hpe.1, e.2.reads p.2 hpe.2⟩
  have hcolumns := mapM_eq_ok hread
  simp only [bind, Except.bind] at hcolumns
  rw [Table.read]
  simp only [bind, Except.bind, hps, hunique,
    t.options.reads.memberOr (fun h => of_decide_eq_true h) hoptions,
    (reads_textList t.manyToOne).memberOr List.isEmpty_iff.1 hmanyToOne,
    (hrelations t.oneToMany).memberOr OrderedMap.eq_empty_of_isEmpty honeToMany,
    (hrelations t.oneToOne).memberOr OrderedMap.eq_empty_of_isEmpty honeToOne,
    (hrelations t.manyToMany).memberOr OrderedMap.eq_empty_of_isEmpty hmanyToMany, hcolumns]
  exact congrArg (fun fields => Except.ok { t with fields }) (OrderedMap.ofList_entries t.fields)

/-- A schema is read back from whatever answers as its written form does. -/
theorem Schema.Storable.reads {τ : Type} [Source τ] {s : Schema} (h : s.Storable) :
    Reads (τ := τ) Schema.read Schema.toNode s := by
  intro t ht
  obtain ⟨ps, hps, hunique, hreserved, htables⟩ := ht.reserved_eq s.names_members h.nodup_written
    (fun name => name ≠ Schema.optionsKey) (fun name => by simp)
  obtain _ | ⟨hoptions, _ | _⟩ := hreserved
  have hread : List.Forall₂ (fun p e => p.1 = e.1 ∧ (Source.node p.2 >>= Table.read) = .ok e.2)
      (ps.filter fun p => p.1 ≠ Schema.optionsKey) s.tables.entries := by
    refine ((List.forall₂_and_left _ _).2
      ⟨h.tables, (List.forall₂_map_right_iff.1 htables).flip⟩).flip.imp fun p e hpe => ⟨hpe.2.1, ?_⟩
    rw [hpe.2.2.node_eq]
    exact hpe.1.reads _ hpe.1.plain.answers
  have htables := mapM_eq_ok (f := fun t : τ => Source.node t >>= Table.read) hread
  simp only [bind_assoc] at htables
  simp only [bind, Except.bind] at htables
  rw [Schema.read]
  simp only [bind, Except.bind, hps, hunique,
    s.options.reads.memberOr (fun h => absurd h Bool.false_ne_true) hoptions, htables]
  exact congrArg (fun tables => Except.ok { s with tables }) (OrderedMap.ofList_entries s.tables)

end SchemaDdl
