import Mathlib.Data.List.Forall2
import SchemaDdl.Proofs.OrderedMap
import SchemaDdl.Schema.Reading
import SchemaDdl.Schema.Writing

/-!
# Documents that answer as a node does

A reader of typed values never looks at a document. It asks the questions of
`Source`, and what it makes of a document depends on the answers alone. So a
document from which a node can be read back is one that answers as the node
would: `Answers t n` says for each kind of node which questions that concerns,
and for a list or a map that its parts answer too.

`Reads read write a` is the law of a reader and a writer that belong together,
for one value: whatever answers as the written node is read as the value. The
laws of maps and of named members follow from those of their parts, and no
reader has to be looked into twice. Nothing is said of documents that were
written in another way; reading is more lenient than writing.
-/

namespace SchemaDdl

section

variable {τ : Type} [Source τ] {α : Type}

inductive Answers : τ → Node → Prop
  | null {t : τ} (unset : Source.isUnset t = true) (node : Source.node t = .ok .null) :
      Answers t .null
  | bool {t : τ} {b : Bool} (set : Source.isUnset t = false) (flag : Source.flag t = .ok b)
      (node : Source.node t = .ok (.bool b)) : Answers t (.bool b)
  | int {t : τ} {n : Int} (set : Source.isUnset t = false)
      (node : Source.node t = .ok (.int n)) : Answers t (.int n)
  | float {t : τ} {d : Double} (set : Source.isUnset t = false)
      (node : Source.node t = .ok (.float d)) : Answers t (.float d)
  | text {t : τ} {s : String} (set : Source.isUnset t = false) (text : Source.text t = .ok s)
      (choice : ∀ typeName, Source.choice typeName t = .ok s)
      (node : Source.node t = .ok (.text s)) : Answers t (.text s)
  | list {t : τ} {items : List Node} (set : Source.isUnset t = false)
      (node : Source.node t = .ok (.list items)) : Answers t (.list items)
  | map {t : τ} {es : List (Key × Node)} {ps : List (String × τ)}
      (set : Source.isUnset t = false) (entries : Source.entries t = .ok ps)
      (members : ∀ names, Source.members names t = .ok (names.map fun name => ps.lookup name))
      (keys : es.map Prod.fst = ps.map fun p => .text p.1)
      (values : List.Forall₂ Answers (ps.map Prod.snd) (es.map Prod.snd))
      (node : Source.node t = .ok (.map es)) : Answers t (.map es)

/-- The reader takes back what the writer wrote of the value. -/
def Reads (read : τ → Except ReadError α) (write : α → Node) (a : α) : Prop :=
  ∀ t, Answers t (write a) → read t = .ok a

namespace Answers

variable {t : τ} {n : Node}

theorem node_eq (h : Answers t n) : Source.node t = .ok n := by
  cases h with
  | null _ node => exact node
  | bool _ _ node => exact node
  | int _ node => exact node
  | float _ node => exact node
  | text _ _ _ node => exact node
  | list _ node => exact node
  | map _ _ _ _ _ node => exact node

/-- Only nothing leaves a member unset. -/
theorem isUnset_eq_false (h : Answers t n) (hn : n ≠ .null) : Source.isUnset t = false := by
  cases h with
  | null => exact absurd rfl hn
  | bool set => exact set
  | int set => exact set
  | float set => exact set
  | text set => exact set
  | list set => exact set
  | map set => exact set

/-! ## Maps -/

theorem pairs_of_parts {ps : List (String × τ)} {l : List (String × Node)}
    (keys : (l.map fun e => (Key.text e.1, e.2)).map Prod.fst = ps.map fun p => .text p.1)
    (values : List.Forall₂ Answers (ps.map Prod.snd)
      ((l.map fun e => (Key.text e.1, e.2)).map Prod.snd)) :
    List.Forall₂ (fun p e => p.1 = e.1 ∧ Answers p.2 e.2) ps l := by
  induction ps generalizing l with
  | nil =>
      cases l with
      | nil => exact .nil
      | cons e r => cases keys
  | cons p ps ih =>
      cases l with
      | nil => cases keys
      | cons e r =>
          obtain ⟨hkey, hkeys⟩ := List.cons.inj keys
          obtain _ | ⟨hvalue, hvalues⟩ := values
          exact .cons ⟨(Key.text.inj hkey).symm, hvalue⟩ (ih hkeys hvalues)

theorem entries_eq {l : List (String × Node)} (h : Answers t (.ofEntries l)) :
    ∃ ps, Source.entries t = .ok ps ∧
      List.Forall₂ (fun p e => p.1 = e.1 ∧ Answers p.2 e.2) ps l := by
  rw [Node.ofEntries] at h
  cases h with
  | map _ entries _ keys values => exact ⟨_, entries, pairs_of_parts keys values⟩

theorem lookup_of_pairs {ps : List (String × τ)} {l : List (String × Node)}
    (h : List.Forall₂ (fun p e => p.1 = e.1 ∧ Answers p.2 e.2) ps l) (name : String) :
    Option.Rel Answers (ps.lookup name) (l.lookup name) := by
  induction h with
  | nil => exact .none
  | @cons p e ps l hpe _ ih =>
      obtain ⟨key, t⟩ := p
      obtain ⟨key', n⟩ := e
      obtain ⟨rfl, hanswers⟩ := hpe
      by_cases hname : name = key
      · subst hname
        rw [List.lookup_cons_self, List.lookup_cons_self]
        exact .some hanswers
      · rw [List.lookup_cons, List.lookup_cons, beq_eq_false_iff_ne.2 hname]
        exact ih

end Answers

theorem keys_writtenMembers_sublist (l : List (String × Option Node)) :
    ((writtenMembers l).map Prod.fst).Sublist (l.map Prod.fst) := by
  induction l with
  | nil => exact .slnil
  | cons e r ih =>
      obtain ⟨name, n⟩ := e
      cases n with
      | none => exact ih.cons name
      | some n => exact ih.cons_cons name

theorem nodup_writtenMembers_append {members : List (String × Option Node)}
    {rest : List (String × Node)} (h : (members.map Prod.fst ++ rest.map Prod.fst).Nodup) :
    ((writtenMembers members ++ rest).map Prod.fst).Nodup := by
  rw [List.map_append]
  exact h.sublist ((keys_writtenMembers_sublist members).append (List.Sublist.refl _))

/-- Each member is found with its value, or not found if it has none. -/
theorem map_lookup_writtenMembers {l : List (String × Option Node)}
    (hl : (l.map Prod.fst).Nodup) :
    (l.map Prod.fst).map (fun name => (writtenMembers l).lookup name) = l.map Prod.snd := by
  induction l with
  | nil => rfl
  | cons e r ih =>
      obtain ⟨name, n⟩ := e
      rw [List.map_cons, List.nodup_cons] at hl
      have hrest : ∀ name' ∈ r.map Prod.fst,
          (writtenMembers ((name, n) :: r)).lookup name' = (writtenMembers r).lookup name' := by
        intro name' hmem
        have hne : name' ≠ name := fun h => hl.1 (h ▸ hmem)
        cases n with
        | none => rfl
        | some n =>
            show List.lookup name' ((name, n) :: writtenMembers r) = _
            rw [List.lookup_cons, beq_eq_false_iff_ne.2 hne]
      rw [List.map_cons, List.map_cons, List.map_cons, List.map_congr_left hrest, ih hl.2]
      congr 1
      cases n with
      | none =>
          exact lookup_eq_none_iff_notMem.2 fun hmem =>
            hl.1 ((keys_writtenMembers_sublist r).subset hmem)
      | some n => exact List.lookup_cons_self

theorem Answers.members_eq {t : τ} {l : List (String × Option Node)} {names : List String}
    (h : Answers t (.ofEntries (writtenMembers l))) (hnames : l.map Prod.fst = names)
    (hnodup : names.Nodup) :
    ∃ vs, Source.members names t = .ok vs ∧
      List.Forall₂ (Option.Rel Answers) vs (l.map Prod.snd) := by
  subst hnames
  rw [Node.ofEntries] at h
  cases h with
  | map _ _ members keys values =>
      refine ⟨_, members _, ?_⟩
      rw [← map_lookup_writtenMembers hnodup, List.forall₂_map_left_iff, List.forall₂_map_right_iff,
        List.forall₂_same]
      exact fun name _ => lookup_of_pairs (pairs_of_parts keys values) name

/-! ## Readers of members -/

namespace Reads

variable {read : τ → Except ReadError α} {write : α → Node} {a : α} {v : Option τ}

theorem requiredMember (hread : Reads read write a) (h : Option.Rel Answers v (some (write a)))
    (name : String) : requiredMember name read v = .ok a := by
  cases h with
  | some h => exact hread _ h

theorem optionalMember {x : Option α} (hread : ∀ a ∈ x, Reads read write a)
    (hnull : ∀ a, write a ≠ .null) (h : Option.Rel Answers v (x.map write)) :
    optionalMember read v = .ok x := by
  cases x with
  | none =>
      cases h with
      | none => rfl
  | some a =>
      cases h with
      | some h =>
          rw [SchemaDdl.optionalMember, h.isUnset_eq_false (hnull a), if_neg Bool.false_ne_true,
            hread a rfl _ h]
          rfl

/-- A member that is left out where it says what is understood anyway. -/
theorem memberOr {otherwise : α} {empty : Bool} (hread : Reads read write a)
    (hempty : empty = true → a = otherwise)
    (h : Option.Rel Answers v (if empty then none else some (write a))) :
    memberOr otherwise read v = .ok a := by
  cases empty with
  | true =>
      rw [hempty rfl]
      cases h with
      | none => rfl
  | false =>
      cases h with
      | some h => exact hread _ h

end Reads

omit [Source τ] in
theorem mapM_eq_ok {β : Type} {f : τ → Except ReadError α} {ps : List (β × τ)} {l : List (β × α)}
    (h : List.Forall₂ (fun p e => p.1 = e.1 ∧ f p.2 = .ok e.2) ps l) :
    (ps.mapM fun p => do return (p.1, ← f p.2)) = (.ok l : Except ReadError _) := by
  induction h with
  | nil => rfl
  | cons hpe _ ih =>
      rw [List.mapM_cons, ih, hpe.1, hpe.2]
      rfl

/-- A map is read back if its values are. -/
theorem Reads.map {read : τ → Except ReadError α} {write : α → Node} {m : OrderedMap α}
    (h : ∀ e ∈ m.entries, Reads read write e.2) : Reads (readMap read) (mapNode write) m := by
  intro t ht
  obtain ⟨ps, hps, hpairs⟩ := ht.entries_eq
  rw [List.forall₂_map_right_iff] at hpairs
  have hread : List.Forall₂ (fun p e => p.1 = e.1 ∧ read p.2 = .ok e.2) ps m.entries := by
    refine ((List.forall₂_and_left _ _).2 ⟨h, hpairs.flip⟩).flip.imp ?_
    exact fun p e hpe => ⟨hpe.2.1, hpe.1 p.2 hpe.2.2⟩
  rw [readMap, hps]
  show (ps.mapM (fun p => do return (p.1, ← read p.2)) >>= _) = _
  rw [mapM_eq_ok hread]
  exact congrArg Except.ok (OrderedMap.ofList_entries m)

theorem reads_flag (b : Bool) : Reads (τ := τ) Source.flag .bool b := by
  intro t h
  cases h with
  | bool _ flag => exact flag

theorem reads_text (s : String) : Reads (τ := τ) Source.text .text s := by
  intro t h
  cases h with
  | text _ text => exact text

end

/-! ## The only pair with a key -/

theorem filter_key_eq {α : Type _} {l : List (String × α)} (hl : (l.map Prod.fst).Nodup)
    (name : String) :
    (l.filter fun e => [name].contains e.1) = ((l.lookup name).map (name, ·)).toList := by
  induction l with
  | nil => rfl
  | cons e r ih =>
      obtain ⟨key, v⟩ := e
      rw [List.map_cons, List.nodup_cons] at hl
      by_cases hname : key = name
      · subst hname
        have hrest : r.lookup key = none := lookup_eq_none_iff_notMem.2 hl.1
        rw [List.filter_cons_of_pos (by simp), ih hl.2, hrest, List.lookup_cons_self]
        rfl
      · have hne : (name == key) = false := beq_eq_false_iff_ne.2 fun h => hname h.symm
        rw [List.filter_cons_of_neg (by simp [hname]), ih hl.2, List.lookup_cons, hne]

theorem Source.uniqueValue_eq {τ : Type} {l : List (String × τ)} (hl : (l.map Prod.fst).Nodup)
    (name : String) : Source.uniqueValue name [name] l = .ok (l.lookup name) := by
  rw [Source.uniqueValue, filter_key_eq hl]
  cases l.lookup name with
  | none => rfl
  | some t => rfl

/-! ## Maps that hold members and other pairs -/

section

variable {τ : Type} [Source τ] {ps : List (String × τ)} {l : List (String × Node)}

theorem keys_of_pairs (h : List.Forall₂ (fun p e => p.1 = e.1 ∧ Answers p.2 e.2) ps l) :
    ps.map Prod.fst = l.map Prod.fst := by
  rw [← List.forall₂_eq_eq_eq, List.forall₂_map_left_iff, List.forall₂_map_right_iff]
  exact h.imp fun _ _ hpe => hpe.1

theorem filter_of_pairs (h : List.Forall₂ (fun p e => p.1 = e.1 ∧ Answers p.2 e.2) ps l)
    (keep : String → Bool) :
    List.Forall₂ (fun p e => p.1 = e.1 ∧ Answers p.2 e.2) (ps.filter fun p => keep p.1)
      (l.filter fun e => keep e.1) := by
  refine List.rel_filter (fun p e hpe => ?_) h
  exact Iff.of_eq (congrArg (fun name => keep name = true) hpe.1)

/-- Members that are written among other pairs are found as if they stood alone, and taking their
names out leaves the other pairs. -/
theorem Answers.reserved_eq {t : τ} {members : List (String × Option Node)}
    {rest : List (String × Node)} {names : List String}
    (h : Answers t (.ofEntries (writtenMembers members ++ rest)))
    (hnames : members.map Prod.fst = names)
    (hnodup : (names ++ rest.map Prod.fst).Nodup) (keep : String → Bool)
    (hkeep : ∀ name, keep name = true ↔ name ∉ names) :
    ∃ ps, Source.entries t = .ok ps ∧
      (∀ name, Source.uniqueValue name [name] ps = .ok (ps.lookup name)) ∧
      List.Forall₂ (Option.Rel Answers) (names.map fun name => ps.lookup name)
        (members.map Prod.snd) ∧
      List.Forall₂ (fun p e => p.1 = e.1 ∧ Answers p.2 e.2) (ps.filter fun p => keep p.1) rest := by
  subst hnames
  obtain ⟨ps, hps, hpairs⟩ := h.entries_eq
  have hkeys : (ps.map Prod.fst).Nodup := keys_of_pairs hpairs ▸ nodup_writtenMembers_append hnodup
  rw [List.nodup_append] at hnodup
  refine ⟨ps, hps, Source.uniqueValue_eq hkeys, ?_, ?_⟩
  · rw [← map_lookup_writtenMembers hnodup.1, List.forall₂_map_left_iff, List.forall₂_map_right_iff,
      List.forall₂_same]
    intro name hname
    have hrest : rest.lookup name = none :=
      lookup_eq_none_iff_notMem.2 fun hmem => hnodup.2.2 name hname name hmem rfl
    have hrel := lookup_of_pairs hpairs name
    rw [List.lookup_append, hrest, Option.or_none] at hrel
    exact hrel
  · have hmembers : (writtenMembers members).filter (fun e => keep e.1) = [] := by
      refine List.filter_eq_nil_iff.2 fun e he hk => (hkeep e.1).1 hk ?_
      exact (keys_writtenMembers_sublist members).subset (List.mem_map_of_mem he)
    have hrest : rest.filter (fun e => keep e.1) = rest := by
      refine List.filter_eq_self.2 fun e he => (hkeep e.1).2 fun hmem => ?_
      exact hnodup.2.2 e.1 hmem e.1 (List.mem_map_of_mem he) rfl
    have hfilter := filter_of_pairs hpairs keep
    rw [List.filter_append, hmembers, hrest, List.nil_append] at hfilter
    exact hfilter

end

/-! ## Nodes answer as themselves -/

namespace Node

/-- A tree of maps, lists and scalars that a document can hold; in a map no key stands twice. -/
inductive Plain : Node → Prop
  | null : Plain .null
  | bool (b : Bool) : Plain (.bool b)
  | int {n : Int} (lower : Int64.minValue.toInt ≤ n) (upper : n < UInt64.size) : Plain (.int n)
  | float {d : Double} (finite : d.isFinite = true) : Plain (.float d)
  | text (s : String) : Plain (.text s)
  | list {items : List Node} (parts : ∀ n ∈ items, Plain n) : Plain (.list items)
  | map {l : List (String × Node)} (nodup : (l.map Prod.fst).Nodup)
      (values : ∀ e ∈ l, Plain e.2) : Plain (.ofEntries l)

theorem Plain.of_map {es : List (Key × Node)} (h : (Node.map es).Plain) :
    (es.map Prod.fst).Nodup ∧ ∀ e ∈ es, e.2.Plain := by
  generalize hn : Node.map es = n at h
  cases h with
  | map nodup values =>
      obtain rfl := Node.map.inj hn
      refine ⟨?_, fun e he => ?_⟩
      · have hkeys := nodup.map fun _ _ h => Key.text.inj h
        rw [List.map_map] at hkeys ⊢
        exact hkeys
      · obtain ⟨e', he', rfl⟩ := List.mem_map.1 he
        exact values e' he'
  | null => cases hn
  | bool => cases hn
  | int => cases hn
  | float => cases hn
  | text => cases hn
  | list => cases hn

theorem listReadable_of_forall {items : List Node} (h : ∀ n ∈ items, n.isReadable = true) :
    listReadable items = true := by
  induction items with
  | nil => rfl
  | cons n r ih =>
      rw [listReadable, h n List.mem_cons_self, ih fun n' hn' => h n' (List.mem_cons_of_mem _ hn')]
      rfl

theorem entriesReadable_of_forall {l : List (String × Node)}
    (h : ∀ e ∈ l, e.2.isReadable = true) :
    entriesReadable (l.map fun e => (Key.text e.1, e.2)) = true := by
  induction l with
  | nil => rfl
  | cons e r ih =>
      rw [List.map_cons, entriesReadable, h e List.mem_cons_self,
        ih fun e' he' => h e' (List.mem_cons_of_mem _ he')]
      rfl

theorem Plain.isReadable {n : Node} (h : n.Plain) : n.isReadable = true := by
  induction h with
  | null => rfl
  | bool => rfl
  | int => rfl
  | float => rfl
  | text => rfl
  | list _ ih => exact listReadable_of_forall ih
  | map _ _ ih => exact entriesReadable_of_forall ih

theorem strictEntries_ofEntries (l : List (String × Node)) :
    strictEntries (.ofEntries l) = .ok l := by
  rw [ofEntries, strictEntries, List.mapM_map]
  induction l with
  | nil => rfl
  | cons e r ih =>
      rw [List.mapM_cons, ih]
      rfl

theorem uniqueValue_text_eq {l : List (String × Node)} (hl : (l.map Prod.fst).Nodup)
    (name : String) (place : Nat) :
    Source.uniqueValue name [.text name, .place place] (l.map fun e => (Key.text e.1, e.2)) =
      .ok (l.lookup name) := by
  have hfilter : ((l.map fun e => (Key.text e.1, e.2)).filter fun e =>
        [Key.text name, .place place].contains e.1) =
      (l.filter fun e => [name].contains e.1).map fun e => (Key.text e.1, e.2) := by
    rw [List.filter_map]
    congr 1
    refine List.filter_congr fun e _ => ?_
    simp
  rw [Source.uniqueValue, hfilter, filter_key_eq hl]
  cases l.lookup name with
  | none => rfl
  | some t => rfl

theorem strictMembers_ofEntries {l : List (String × Node)} (hl : (l.map Prod.fst).Nodup)
    (names : List String) :
    strictMembers names (.ofEntries l) = .ok (names.map fun name => l.lookup name) := by
  have hnamed : ((l.map fun e => (Key.text e.1, e.2)).any fun e =>
      decide (e.1 = .other) || decide (e.1 = .unreadable)) = false := by
    simp
  have hnames : (names.zipIdx.mapM fun x => (.ok (l.lookup x.1) : Except ReadError _)) =
      .ok (names.zipIdx.map fun x => l.lookup x.1) := List.mapM_pure
  rw [ofEntries, strictMembers, namedMembers, hnamed, if_neg Bool.false_ne_true]
  simp only [uniqueValue_text_eq hl]
  rw [hnames]
  conv_rhs => rw [← List.zipIdx_map_fst 0 names, List.map_map]
  rfl

theorem Plain.answers {n : Node} (h : n.Plain) : Answers n n := by
  induction h with
  | null => exact .null rfl rfl
  | bool b => exact .bool rfl rfl rfl
  | int => exact .int rfl rfl
  | float => exact .float rfl rfl
  | text s => exact .text rfl rfl (fun _ => rfl) rfl
  | @list items h ih =>
      refine .list rfl ?_
      exact if_pos (Plain.list h).isReadable
  | @map l nodup values ih =>
      refine .map rfl (strictEntries_ofEntries l) (strictMembers_ofEntries nodup) ?_ ?_ ?_
      · rw [List.map_map]
        rfl
      · rw [List.map_map, List.forall₂_map_left_iff, List.forall₂_map_right_iff, List.forall₂_same]
        exact ih
      · exact if_pos (Plain.map nodup values).isReadable

end Node

end SchemaDdl
