import SchemaDdl.Artifact.Store
import SchemaDdl.Proofs.ReadBack

/-!
# The artifact loses nothing

An artifact is written as a tree and read as a text, and the text between the
two is the business of the YAML library. What is asked of the library is that it
reads back the tree that it wrote: maps as maps with the same keys, lists as
lists, and each scalar as a scalar of the same kind, an empty text between
quotation marks. `Tree.Spells` says this of a tree that was read and a node that
was written, and `ReadsBack` asks it of the library for one node, provided that
the node is a plain one.

Everything else is proved. A tree that spells a node answers as the node does,
although the questions are answered by rules of their own where something is
expected; and from whatever answers so the schema is read back.
-/

namespace SchemaDdl.Yaml

/-! ## Trees that spell nodes -/

/-- The scalar has the node's kind by the document's rules, and no tag to make it another. -/
structure Scalar.Spells (s : Scalar) (n : Node) : Prop where
  untagged : s.tag = .absent
  kind : s.toNode = .ok n
  unset : s.isUnset = true → n = .null
  text : ∀ x, n = .text x → s.text = x

mutual

inductive Tree.Spells : Tree → Node → Prop
  | scalar {s : Scalar} {n : Node} (scalar : s.Spells n) : Tree.Spells (.scalar s) n
  | seq {ts : List Tree} {ns : List Node} (items : Tree.ItemsSpell ts ns) :
      Tree.Spells (.seq ts) (.list ns)
  | map {ps : List (Tree × Tree)} {merging : Bool} {es : List (Key × Node)}
      (pairs : Tree.PairsSpell ps es) : Tree.Spells (.map ps merging) (.map es)

inductive Tree.ItemsSpell : List Tree → List Node → Prop
  | nil : Tree.ItemsSpell [] []
  | cons {t : Tree} {n : Node} {ts : List Tree} {ns : List Node} (first : t.Spells n)
      (rest : Tree.ItemsSpell ts ns) : Tree.ItemsSpell (t :: ts) (n :: ns)

inductive Tree.PairsSpell : List (Tree × Tree) → List (Key × Node) → Prop
  | nil : Tree.PairsSpell [] []
  | cons {s : Scalar} {name : String} {t : Tree} {n : Node} {ps : List (Tree × Tree)}
      {es : List (Key × Node)} (key : s.Spells (.text name)) (value : t.Spells n)
      (rest : Tree.PairsSpell ps es) :
      Tree.PairsSpell ((.scalar s, t) :: ps) ((.text name, n) :: es)

end

/-- The library reads back the tree that it wrote. -/
def ReadsBack (n : Node) : Prop := n.Plain → ∃ t, Yaml.read (Yaml.write n) = .ok t ∧ t.Spells n

/-! ## Spelling can be checked -/

def Scalar.spells (s : Scalar) (n : Node) : Bool :=
  s.tag = .absent &&
    match s.toNode, n with
    | .ok .null, .null => true
    | .ok (.bool b), .bool b' => b = b' && !s.isUnset
    | .ok (.int i), .int i' => i = i' && !s.isUnset
    | .ok (.float d), .float d' => d = d' && !s.isUnset
    | .ok (.text x), .text x' => x = x' && s.text = x' && !s.isUnset
    | _, _ => false

theorem Scalar.Spells.of_set {s : Scalar} {n : Node} (htag : s.tag = .absent)
    (hkind : s.toNode = .ok n) (hset : s.isUnset = false) (htext : ∀ x, n = .text x → s.text = x) :
    s.Spells n :=
  ⟨htag, hkind, fun hunset => absurd (hset.symm.trans hunset) Bool.false_ne_true, htext⟩

theorem Scalar.Spells.of_value {α : Type} [DecidableEq α] {value : α → Node} {s : Scalar} {x y : α}
    (htag : s.tag = .absent) (hkind : s.toNode = .ok (value x))
    (htext : ∀ y z, value y ≠ .text z) (h : (decide (x = y) && !s.isUnset) = true) :
    s.Spells (value y) := by
  rw [Bool.and_eq_true, decide_eq_true_eq, Bool.not_eq_true'] at h
  obtain ⟨rfl, hset⟩ := h
  exact .of_set htag hkind hset fun z hz => absurd hz (htext x z)

theorem Scalar.Spells.of_spells {s : Scalar} {n : Node} (h : s.spells n = true) : s.Spells n := by
  simp only [spells, Bool.and_eq_true, decide_eq_true_eq] at h
  obtain ⟨htag, hkind⟩ := h
  split at hkind
  · next hnode => exact ⟨htag, hnode, fun _ => rfl, fun _ h => Node.noConfusion h⟩
  · next hnode => exact .of_value htag hnode (fun _ _ => Node.noConfusion) hkind
  · next hnode => exact .of_value htag hnode (fun _ _ => Node.noConfusion) hkind
  · next hnode => exact .of_value htag hnode (fun _ _ => Node.noConfusion) hkind
  · next hnode =>
      simp only [Bool.and_eq_true, decide_eq_true_eq, Bool.not_eq_true'] at hkind
      obtain ⟨⟨rfl, htext⟩, hset⟩ := hkind
      exact .of_set htag hnode hset fun _ h => htext.trans (Node.text.inj h)
  · cases hkind

mutual

def Tree.spells : Tree → Node → Bool
  | .scalar s, n => s.spells n
  | .seq ts, .list ns => Tree.itemsSpell ts ns
  | .map ps _, .map es => Tree.pairsSpell ps es
  | _, _ => false

def Tree.itemsSpell : List Tree → List Node → Bool
  | [], [] => true
  | t :: ts, n :: ns => t.spells n && Tree.itemsSpell ts ns
  | _, _ => false

def Tree.pairsSpell : List (Tree × Tree) → List (Key × Node) → Bool
  | [], [] => true
  | (.scalar s, t) :: ps, (.text name, n) :: es =>
    s.spells (.text name) && t.spells n && Tree.pairsSpell ps es
  | _, _ => false

end

mutual

theorem Tree.Spells.of_spells : ∀ (t : Tree) (n : Node), t.spells n = true → t.Spells n
  | .scalar s, n, h => .scalar (.of_spells h)
  | .seq ts, n, h => by
      cases n with
      | list ns => exact .seq (Tree.ItemsSpell.of_itemsSpell ts ns h)
      | _ => cases h
  | .map ps merging, n, h => by
      cases n with
      | map es => exact .map (Tree.PairsSpell.of_pairsSpell ps es h)
      | _ => cases h

theorem Tree.ItemsSpell.of_itemsSpell : ∀ (ts : List Tree) (ns : List Node),
    Tree.itemsSpell ts ns = true → Tree.ItemsSpell ts ns
  | [], [], _ => .nil
  | [], _ :: _, h => by cases h
  | _ :: _, [], h => by cases h
  | t :: ts, n :: ns, h => by
      rw [Tree.itemsSpell, Bool.and_eq_true] at h
      exact .cons (Tree.Spells.of_spells t n h.1) (Tree.ItemsSpell.of_itemsSpell ts ns h.2)

theorem Tree.PairsSpell.of_pairsSpell : ∀ (ps : List (Tree × Tree)) (es : List (Key × Node)),
    Tree.pairsSpell ps es = true → Tree.PairsSpell ps es
  | [], [], _ => .nil
  | [], _ :: _, h => by simp [Tree.pairsSpell] at h
  | _ :: _, [], h => by simp [Tree.pairsSpell] at h
  | (k, t) :: ps, (key, n) :: es, h => by
      cases k with
      | scalar s =>
          cases key with
          | text name =>
              simp only [Tree.pairsSpell, Bool.and_eq_true] at h
              exact .cons (.of_spells h.1.1) (Tree.Spells.of_spells t n h.1.2)
                (Tree.PairsSpell.of_pairsSpell ps es h.2)
          | _ => simp [Tree.pairsSpell] at h
      | _ => simp [Tree.pairsSpell] at h

end

/-- Whether the library reads back the tree, found by writing it and reading it. -/
def readsBack (n : Node) : Bool := (Yaml.read (Yaml.write n)).toOption.any fun t => t.spells n

theorem ReadsBack.of_readsBack {n : Node} (h : readsBack n = true) : ReadsBack n := by
  intro _
  rw [readsBack, Option.any_eq_true] at h
  obtain ⟨t, ht, hspells⟩ := h
  refine ⟨t, ?_, .of_spells t n hspells⟩
  cases hread : Yaml.read (Yaml.write n) with
  | error e =>
      rw [hread] at ht
      cases ht
  | ok t' =>
      rw [hread] at ht
      exact congrArg Except.ok (Option.some.inj ht)

/-! ## Scalars answer -/

namespace Scalar

variable {s : Scalar} {n : Node}

theorem floatNode_cases (d : Double) : floatNode d = .float d ∨ ∃ x, floatNode d = .text x := by
  rw [floatNode]
  split
  · exact .inl rfl
  · split
    · exact .inr ⟨_, rfl⟩
    · exact .inr ⟨_, rfl⟩

/-- What a scalar can mean. -/
theorem toNode_cases (h : s.toNode = .ok n) :
    s.isNull = true ∧ n = .null ∨
      s.isNull = false ∧
        ((∃ x, n = .text x) ∨ (∃ b, flagOf s.text = some b ∧ n = .bool b) ∨ (∃ i, n = .int i) ∨
          ∃ d, n = .float d) := by
  rw [toNode] at h
  split at h
  · next hnull => exact .inl ⟨hnull, (Except.ok.inj h).symm⟩
  · next hnull =>
      refine .inr ⟨Bool.eq_false_iff.2 hnull, ?_⟩
      split at h
      · cases hcontent : s.content with
        | error e =>
            rw [hcontent] at h
            cases h
        | ok x =>
            rw [hcontent] at h
            exact .inl ⟨x, (Except.ok.inj h).symm⟩
      · split at h
        · next b hflag => exact .inr (.inl ⟨b, hflag, (Except.ok.inj h).symm⟩)
        · split at h
          · next i _ => exact .inr (.inr (.inl ⟨i, (Except.ok.inj h).symm⟩))
          · split at h
            · next d _ =>
                obtain rfl := Except.ok.inj h
                rcases floatNode_cases d with hd | ⟨x, hd⟩
                · exact .inr (.inr (.inr ⟨d, hd⟩))
                · exact .inl ⟨x, hd⟩
            · exact .inl ⟨s.text, (Except.ok.inj h).symm⟩

theorem Spells.expectedText_eq {name : String} (h : s.Spells (.text name)) :
    s.expectedText = .ok name := by
  have hnull : s.isNull = false := by
    rcases toNode_cases h.kind with ⟨-, hnull⟩ | ⟨hnull, -⟩
    · cases hnull
    · exact hnull
  rw [isNull, h.untagged] at hnull
  have hword : s.isNullWord = false := hnull
  rw [expectedText, content, h.untagged, hword, h.text name rfl]
  rfl

theorem Spells.isUnset_eq_false (h : s.Spells n) (hn : n ≠ .null) : s.isUnset = false :=
  Bool.eq_false_iff.2 fun hunset => hn (h.unset hunset)

theorem Spells.answers (h : s.Spells n) : Answers (Tree.scalar s) n := by
  have hnode : Source.node (Tree.scalar s) = .ok n := h.kind
  rcases toNode_cases h.kind with
    ⟨hnull, rfl⟩ | ⟨-, ⟨x, rfl⟩ | ⟨b, hflag, rfl⟩ | ⟨i, rfl⟩ | ⟨d, rfl⟩⟩
  · refine .null ?_ hnode
    show s.isUnset = true
    rw [isUnset, hnull]
    rfl
  · refine .text (h.isUnset_eq_false Node.noConfusion) h.expectedText_eq (fun typeName => ?_) hnode
    show s.choice typeName = .ok x
    rw [choice, h.untagged, h.text x rfl]
  · refine .bool (h.isUnset_eq_false Node.noConfusion) ?_ hnode
    simp only [Source.flag, hflag]
  · exact .int (h.isUnset_eq_false Node.noConfusion) hnode
  · exact .float (h.isUnset_eq_false Node.noConfusion) hnode

end Scalar

/-! ## Trees answer -/

namespace Tree

mutual

theorem toNode_of_spells : ∀ (t : Tree) (n : Node), t.Spells n → t.toNode = .ok n
  | .scalar s, n, h => by
      cases h with
      | scalar h => exact h.kind
  | .seq ts, n, h => by
      cases h with
      | seq h =>
          rw [toNode, itemNodes_of_spell ts _ h]
          rfl
  | .map ps merging, n, h => by
      cases h with
      | map h =>
          rw [toNode, pairNodes_of_spell ps _ h]
          rfl

theorem itemNodes_of_spell : ∀ (ts : List Tree) (ns : List Node), ItemsSpell ts ns →
    itemNodes ts = .ok ns
  | [], ns, h => by
      cases h
      rfl
  | t :: ts, ns, h => by
      cases h with
      | cons first rest =>
          rw [itemNodes, toNode_of_spells t _ first, itemNodes_of_spell ts _ rest]
          rfl

theorem pairNodes_of_spell : ∀ (ps : List (Tree × Tree)) (es : List (Key × Node)),
    PairsSpell ps es → pairNodes ps = .ok es
  | [], es, h => by
      cases h
      rfl
  | (k, t) :: ps, es, h => by
      cases h with
      | cons key value rest =>
          rw [pairNodes, toNode_of_spells t _ value, pairNodes_of_spell ps _ rest, toNode, key.kind]
          rfl

end

theorem forIn_eq_ok {α : Type} {l : List α}
    {f : α → PUnit → Except ReadError (ForInStep PUnit)}
    (h : ∀ a ∈ l, f a ⟨⟩ = .ok (.yield ⟨⟩)) : forIn l PUnit.unit f = .ok ⟨⟩ := by
  induction l with
  | nil => rfl
  | cons a r ih =>
      rw [List.forIn_cons, h a List.mem_cons_self]
      exact ih fun a' ha' => h a' (List.mem_cons_of_mem _ ha')

/-- Unknown members are looked at and passed over, so the known ones are found as they are. -/
theorem expectedMembers_eq {t : Tree} {qs : List (String × Tree)} (hqs : t.expectedEntries = .ok qs)
    (hnodup : (qs.map Prod.fst).Nodup) (hnode : ∀ q ∈ qs, ∃ n, q.2.toNode = .ok n)
    (names : List String) :
    t.expectedMembers names = .ok (names.map fun name => qs.lookup name) := by
  have hmembers : (names.mapM fun name => Source.uniqueValue name [name] qs) =
      .ok (names.map fun name => qs.lookup name) := by
    simp only [Source.uniqueValue_eq hnodup]
    exact List.mapM_pure
  rw [expectedMembers, hqs]
  simp only [bind, Except.bind, hmembers]
  rw [forIn_eq_ok]
  intro q hq
  obtain ⟨n, hn⟩ := hnode q hq
  rw [hn]
  split
  · rfl
  · rfl

mutual

theorem answers_of_spells : ∀ (t : Tree) (n : Node), n.Plain → t.Spells n → Answers t n
  | .scalar s, n, _, h => by
      cases h with
      | scalar h => exact h.answers
  | .seq ts, n, _, h => by
      have hnode := toNode_of_spells _ _ h
      cases h with
      | seq h => exact .list rfl hnode
  | .map ps merging, n, hplain, h => by
      have hnode := toNode_of_spells _ _ h
      cases h with
      | map h =>
          obtain ⟨hnodup, hvalues⟩ := hplain.of_map
          obtain ⟨qs, hqs, hkeys, hanswers, hnodes⟩ := entries_of_spell ps _ hvalues h
          have hentries : (Tree.map ps merging).expectedEntries = .ok qs := hqs
          have hqnodup : (qs.map Prod.fst).Nodup := by
            rw [hkeys] at hnodup
            refine List.Nodup.of_map Key.text ?_
            rw [List.map_map]
            exact hnodup
          exact .map rfl hentries (expectedMembers_eq hentries hqnodup hnodes) hkeys hanswers hnode

theorem entries_of_spell : ∀ (ps : List (Tree × Tree)) (es : List (Key × Node)),
    (∀ e ∈ es, e.2.Plain) → PairsSpell ps es →
    ∃ qs : List (String × Tree),
      (ps.mapM fun e => do return (← e.1.expectedText, e.2)) = .ok qs ∧
        es.map Prod.fst = qs.map (fun q => .text q.1) ∧
        List.Forall₂ Answers (qs.map Prod.snd) (es.map Prod.snd) ∧
        ∀ q ∈ qs, ∃ n, q.2.toNode = .ok n
  | [], es, _, h => by
      cases h
      exact ⟨[], rfl, rfl, .nil, fun q hq => by cases hq⟩
  | (k, t) :: ps, es, hplain, h => by
      cases h with
      | @cons s name t n ps es key value rest =>
          have hvalue := answers_of_spells t n (hplain _ List.mem_cons_self) value
          obtain ⟨qs, hqs, hkeys, hanswers, hnodes⟩ :=
            entries_of_spell ps es (fun e he => hplain e (List.mem_cons_of_mem _ he)) rest
          refine ⟨(name, t) :: qs, ?_, ?_, .cons hvalue hanswers,
            List.forall_mem_cons.2 ⟨⟨n, toNode_of_spells t n value⟩, hnodes⟩⟩
          · rw [List.mapM_cons, hqs, expectedText, key.expectedText_eq]
            rfl
          · rw [List.map_cons, List.map_cons, hkeys]

end

end Tree

end SchemaDdl.Yaml

namespace SchemaDdl

/-- If the library reads back the tree that it writes for a schema, the artifact of the schema
loads as the schema. -/
theorem ofArtifactText_artifactText (s : Schema) (hs : s.Storable)
    (hlibrary : Yaml.ReadsBack s.toNode) : Schema.ofArtifactText s.artifactText = .ok s := by
  obtain ⟨t, ht, hspells⟩ := hlibrary hs.plain
  have hanswers := Yaml.Tree.answers_of_spells t s.toNode hs.plain hspells
  rw [Schema.ofArtifactText, Schema.artifactText, ht]
  exact hs.reads t hanswers

/-- A length of two numbers, a fraction, a text that looks like a flag, and a cascade to null. -/
def rated : Schema :=
  ({} : Schema) |>.addTable "a" ((({} : Table).withField "b"
      { typeName := "float", length := some (.precision 5 2),
        defaultValue := some (.float ⟨0x3ff8000000000000⟩) })
    |>.hasMany "c" { cascade := .setNull, defaultValue := some (.text "true") })

theorem ofArtifactText_rated :
    rated.Storable ∧ Yaml.ReadsBack rated.toNode ∧
      Schema.ofArtifactText rated.artifactText = .ok rated := by
  have hstorable : rated.Storable := by decide +kernel
  have hlibrary : Yaml.ReadsBack rated.toNode := .of_readsBack (by decide +kernel)
  exact ⟨hstorable, hlibrary, ofArtifactText_artifactText rated hstorable hlibrary⟩

end SchemaDdl
