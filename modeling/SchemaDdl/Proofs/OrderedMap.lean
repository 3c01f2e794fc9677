import Mathlib.Data.List.Nodup
import SchemaDdl.OrderedMap

/-!
# What a look-up finds

`insert` comes with two laws, one for the keys and one for the values. This
file carries the pair over to everything that is built from it. A fold of
insertions finds the last value that it stored, and falls back on the map it
started from; a map extended by another finds the second map's values first;
a map rewritten value by value finds the rewritten value.

Order is spoken of in two places only. A new key goes to the end, so a run of
insertions under keys that are all new is an append on the pairs, and that is
what the compilation's own invariants are stated on. And two maps that find the
same under every key hold the same pairs, each in an order of its own.
-/

namespace SchemaDdl

/-! ## Lists of pairs

A key that stands in a list of pairs is found, and a key that stands there
once is found with its own value. -/

theorem lookup_eq_none_iff_notMem {α : Type _} {l : List (String × α)} {k : String} :
    l.lookup k = none ↔ k ∉ l.map Prod.fst := by
  rw [List.lookup_eq_none_iff, List.mem_map]
  constructor
  · rintro h ⟨e, he, rfl⟩
    exact absurd (h e he) (by simp)
  · intro h e he
    exact bne_iff_ne.2 fun hk => h ⟨e, he, hk.symm⟩

theorem mem_of_lookup {α : Type _} {l : List (String × α)} {k : String} {v : α}
    (h : l.lookup k = some v) : (k, v) ∈ l := by
  obtain ⟨l₁, l₂, rfl, -⟩ := List.lookup_eq_some_iff.1 h
  exact List.mem_append_right _ List.mem_cons_self

theorem lookup_eq_some_iff_mem {α : Type _} {l : List (String × α)}
    (hl : (l.map Prod.fst).Nodup) {k : String} {v : α} :
    l.lookup k = some v ↔ (k, v) ∈ l := by
  refine ⟨mem_of_lookup, fun h => ?_⟩
  induction l with
  | nil => cases h
  | cons e r ih =>
      obtain ⟨k', v'⟩ := e
      rw [List.map_cons, List.nodup_cons] at hl
      rcases List.mem_cons.1 h with heq | hmem
      · obtain ⟨rfl, rfl⟩ := Prod.mk.inj heq
        exact List.lookup_cons_self
      · have hne : k ≠ k' := fun hk => hl.1 (List.mem_map.2 ⟨(k, v), hmem, hk⟩)
        rw [List.lookup_cons, beq_eq_false_iff_ne.2 hne]
        exact ih hl.2 hmem

theorem lookup_map_snd {α β : Type _} (f : String → α → β) (l : List (String × α)) (k : String) :
    (l.map fun e => (e.1, f e.1 e.2)).lookup k = (l.lookup k).map (f k) := by
  induction l with
  | nil => rfl
  | cons e r ih =>
      obtain ⟨k', v⟩ := e
      by_cases h : k = k'
      · subst h
        simp
      · simp only [List.map_cons, List.lookup_cons, beq_eq_false_iff_ne.2 h, ih]

namespace OrderedMap

universe u v

variable {α : Type u} {β : Type v} {m n : OrderedMap α} {k : String} {x : α}

/-! ## Keys and look-ups -/

theorem ext_entries (h : m.entries = n.entries) : m = n := by
  cases m
  cases n
  cases h
  rfl

theorem mem_entries_iff : (k, x) ∈ m.entries ↔ m.get? k = some x :=
  (lookup_eq_some_iff_mem m.nodup).symm

theorem get?_eq_none_iff : m.get? k = none ↔ k ∉ m.keys := lookup_eq_none_iff_notMem

theorem mem_keys_iff : k ∈ m.keys ↔ ∃ x, m.get? k = some x := by
  rw [← Option.isSome_iff_exists, Option.isSome_iff_ne_none, Ne, get?_eq_none_iff,
    Decidable.not_not]

theorem mem_keys_of_get? (h : m.get? k = some x) : k ∈ m.keys := mem_keys_iff.2 ⟨x, h⟩

theorem contains_iff : m.contains k = true ↔ k ∈ m.keys := by
  rw [contains, Option.isSome_iff_exists, mem_keys_iff]

@[simp] theorem keys_empty : (empty : OrderedMap α).keys = [] := rfl

@[simp] theorem get?_empty : (empty : OrderedMap α).get? k = none := rfl

theorem isEmpty_iff : m.isEmpty = true ↔ m.keys = [] := by
  rw [isEmpty, keys, List.isEmpty_iff, List.map_eq_nil_iff]

theorem eq_empty_of_isEmpty (h : m.isEmpty = true) : m = {} :=
  ext_entries (List.isEmpty_iff.1 h)

theorem isEmpty_eq_false_iff : m.isEmpty = false ↔ ∃ k x, m.get? k = some x := by
  rw [isEmpty, List.isEmpty_eq_false_iff_exists_mem]
  refine ⟨fun ⟨(k, x), h⟩ => ⟨k, x, mem_entries_iff.1 h⟩, fun ⟨k, x, h⟩ => ⟨(k, x), ?_⟩⟩
  exact mem_entries_iff.2 h

theorem get?_of_first? (h : m.first? = some (k, x)) : m.get? k = some x :=
  mem_entries_iff.1 (List.mem_of_mem_head? h)

theorem first?_isSome (h : m.isEmpty = false) : ∃ k x, m.first? = some (k, x) := by
  cases hm : m.entries with
  | nil => simp [isEmpty, hm] at h
  | cons e r => exact ⟨e.1, e.2, by rw [first?, hm]; rfl⟩

/-! ## Insertions -/

theorem mem_keys_insert {k' : String} : k' ∈ (m.insert k x).keys ↔ k' ∈ m.keys ∨ k' = k := by
  rw [keys_insert]
  split
  · next h => exact ⟨.inl, fun h' => h'.elim id fun e => e ▸ h⟩
  · rw [List.mem_append, List.mem_singleton]

theorem put_eq_append {l : List (String × α)} (h : k ∉ l.map Prod.fst) :
    put k x l = l ++ [(k, x)] := by
  induction l with
  | nil => rfl
  | cons e r ih =>
      obtain ⟨k', v'⟩ := e
      rw [List.map_cons, List.mem_cons, not_or] at h
      rw [put, if_neg (fun e => h.1 e.symm), ih h.2, List.cons_append]

theorem entries_insert_of_notMem (h : k ∉ m.keys) :
    (m.insert k x).entries = m.entries ++ [(k, x)] := put_eq_append h

@[simp] theorem insertAll_nil : m.insertAll [] = m := rfl

theorem insertAll_cons (e : String × α) (l : List (String × α)) :
    m.insertAll (e :: l) = (m.insert e.1 e.2).insertAll l := rfl

theorem mem_keys_insertAll {l : List (String × α)} :
    k ∈ (m.insertAll l).keys ↔ k ∈ m.keys ∨ k ∈ l.map Prod.fst := by
  induction l generalizing m with
  | nil => simp
  | cons e r ih =>
      rw [insertAll_cons, ih, mem_keys_insert, List.map_cons, List.mem_cons, or_assoc]

/-- Of several values stored under a key the last one stays. -/
theorem get?_insertAll (m : OrderedMap α) (l : List (String × α)) (k : String) :
    (m.insertAll l).get? k = (l.reverse.lookup k).or (m.get? k) := by
  induction l generalizing m with
  | nil => rfl
  | cons e r ih =>
      obtain ⟨k', v⟩ := e
      rw [insertAll_cons, ih, get?_insert, List.reverse_cons, List.lookup_append]
      by_cases h : k = k'
      · subst h
        rw [if_pos rfl, List.lookup_cons_self, Option.or_assoc, Option.some_or]
      · rw [if_neg h, List.lookup_cons, beq_eq_false_iff_ne.2 h, List.lookup_nil, Option.or_none]

/-- One value stored under several keys. -/
theorem get?_insertAll_const (m : OrderedMap α) (l : List String) (v : α) (k : String) :
    (m.insertAll (l.map (·, v))).get? k = if k ∈ l then some v else m.get? k := by
  induction l generalizing m with
  | nil => rfl
  | cons k' r ih =>
      rw [List.map_cons, insertAll_cons, ih, get?_insert]
      by_cases hr : k ∈ r
      · rw [if_pos hr, if_pos (List.mem_cons_of_mem _ hr)]
      · simp only [List.mem_cons, hr, or_false, if_false]

theorem lookup_reverse {l : List (String × α)} (hl : (l.map Prod.fst).Nodup) (k : String) :
    l.reverse.lookup k = l.lookup k := by
  have hr : (l.reverse.map Prod.fst).Nodup := by
    rw [List.map_reverse]
    exact List.nodup_reverse.2 hl
  refine Option.ext fun v => ?_
  rw [lookup_eq_some_iff_mem hr, lookup_eq_some_iff_mem hl, List.mem_reverse]

@[simp] theorem get?_extend (m n : OrderedMap α) (k : String) :
    (m.extend n).get? k = (n.get? k).or (m.get? k) := by
  rw [extend, get?_insertAll, lookup_reverse n.nodup]
  rfl

theorem mem_keys_extend : k ∈ (m.extend n).keys ↔ k ∈ m.keys ∨ k ∈ n.keys := mem_keys_insertAll

theorem get?_ofList (l : List (String × α)) (k : String) :
    (ofList l).get? k = l.reverse.lookup k := by
  rw [ofList, get?_insertAll, get?_empty, Option.or_none]

theorem mem_keys_ofList {l : List (String × α)} : k ∈ (ofList l).keys ↔ k ∈ l.map Prod.fst := by
  rw [ofList, mem_keys_insertAll, keys_empty]
  simp

/-- A list whose keys differ is the map's own pairs. -/
theorem entries_insertAll {l : List (String × α)} (hl : (l.map Prod.fst).Nodup)
    (hm : ∀ k ∈ l.map Prod.fst, k ∉ m.keys) : (m.insertAll l).entries = m.entries ++ l := by
  induction l generalizing m with
  | nil => simp
  | cons e r ih =>
      rw [List.map_cons, List.nodup_cons] at hl
      have hnew : e.1 ∉ m.keys := hm e.1 (by simp)
      rw [insertAll_cons, ih hl.2, entries_insert_of_notMem hnew, List.append_assoc]
      · rfl
      · intro k hk hmem
        rcases mem_keys_insert.1 hmem with h | rfl
        · exact hm k (by rw [List.map_cons]; exact List.mem_cons_of_mem _ hk) h
        · exact hl.1 hk

theorem ofList_entries (m : OrderedMap α) : ofList m.entries = m :=
  ext_entries (entries_insertAll m.nodup fun _ _ => List.not_mem_nil)

theorem empty_extend (m : OrderedMap α) : ({} : OrderedMap α).extend m = m := ofList_entries m

theorem put_eq_self {l : List (String × α)} (hl : (l.map Prod.fst).Nodup) (h : (k, x) ∈ l) :
    put k x l = l := by
  induction l with
  | nil => cases h
  | cons e r ih =>
      obtain ⟨k', v'⟩ := e
      rw [List.map_cons, List.nodup_cons] at hl
      rcases List.mem_cons.1 h with heq | hmem
      · obtain ⟨rfl, rfl⟩ := Prod.mk.inj heq
        rw [put, if_pos rfl]
      · have hne : k' ≠ k := fun hk => hl.1 (List.mem_map.2 ⟨(k, x), hmem, hk.symm⟩)
        rw [put, if_neg hne, ih hl.2 hmem]

theorem insertAll_eq_self {l : List (String × α)} (h : ∀ e ∈ l, e ∈ m.entries) :
    m.insertAll l = m := by
  induction l with
  | nil => rfl
  | cons e r ih =>
      have he : m.insert e.1 e.2 = m :=
        ext_entries (put_eq_self m.nodup (h e List.mem_cons_self))
      rw [insertAll_cons, he]
      exact ih fun e' he' => h e' (List.mem_cons_of_mem _ he')

@[simp] theorem extend_self (m : OrderedMap α) : m.extend m = m := insertAll_eq_self fun _ h => h

/-! ## The order of the keys

Where a key stands depends on the keys alone. A map extended by another keeps its own keys in
front, so a map whose keys already stand in front of another's adds nothing to it. -/

theorem keys_insertAll_congr {m : OrderedMap α} {n : OrderedMap β} (h : m.keys = n.keys)
    {l : List (String × α)} {l' : List (String × β)} (hl : l.map Prod.fst = l'.map Prod.fst) :
    (m.insertAll l).keys = (n.insertAll l').keys := by
  induction l generalizing m n l' with
  | nil =>
      cases l' with
      | nil => exact h
      | cons e' r' => cases hl
  | cons e r ih =>
      cases l' with
      | nil => cases hl
      | cons e' r' =>
          obtain ⟨hkey, hrest⟩ := List.cons.inj hl
          refine ih (m := m.insert e.1 e.2) (n := n.insert e'.1 e'.2) ?_ hrest
          rw [keys_insert, keys_insert, h, hkey]

theorem keys_extend_congr {m m' n n' : OrderedMap α} (h : m.keys = m'.keys)
    (h' : n.keys = n'.keys) : (m.extend n).keys = (m'.extend n').keys := keys_insertAll_congr h h'

theorem keys_insertAll_of_nodup {l : List (String × α)} (hl : (l.map Prod.fst).Nodup) :
    (m.insertAll l).keys = m.keys ++ (l.map Prod.fst).filter (· ∉ m.keys) := by
  induction l generalizing m with
  | nil => simp
  | cons e r ih =>
      rw [List.map_cons, List.nodup_cons] at hl
      rw [insertAll_cons, ih hl.2, keys_insert, List.map_cons]
      by_cases hmem : e.1 ∈ m.keys
      · rw [if_pos hmem, List.filter_cons_of_neg (by simp [hmem])]
      · have hrest : (r.map Prod.fst).filter (· ∉ m.keys ++ [e.1]) =
            (r.map Prod.fst).filter (· ∉ m.keys) := by
          refine List.filter_congr fun k hk => ?_
          have hne : k ≠ e.1 := fun h => hl.1 (h ▸ hk)
          simp [hne]
        rw [if_neg hmem, hrest, List.filter_cons_of_pos (by simp [hmem]), List.append_assoc]
        rfl

theorem keys_extend (m n : OrderedMap α) :
    (m.extend n).keys = m.keys ++ n.keys.filter (· ∉ m.keys) := keys_insertAll_of_nodup n.nodup

theorem keys_prefix_extend (m n : OrderedMap α) : m.keys <+: (m.extend n).keys :=
  ⟨_, (keys_extend m n).symm⟩

theorem ext_get? (hkeys : m.keys = n.keys) (hget : ∀ k, m.get? k = n.get? k) : m = n := by
  have hlength : m.entries.length = n.entries.length := by
    simpa [keys] using congrArg List.length hkeys
  refine ext_entries (List.ext_getElem hlength fun i hm hn => ?_)
  have hkey : m.entries[i].1 = n.entries[i].1 := by
    have hi : (m.keys)[i]? = (n.keys)[i]? := by rw [hkeys]
    simpa [keys, List.getElem?_map, List.getElem?_eq_getElem, hm, hn] using hi
  have hmi : m.get? m.entries[i].1 = some m.entries[i].2 := mem_entries_iff.1 (List.getElem_mem hm)
  have hni : n.get? n.entries[i].1 = some n.entries[i].2 := mem_entries_iff.1 (List.getElem_mem hn)
  rw [hget, hkey, hni] at hmi
  exact Prod.ext hkey (Option.some.inj hmi).symm

theorem extend_eq_of_prefix (h : m.keys <+: n.keys) : m.extend n = n := by
  obtain ⟨rest, hrest⟩ := h
  have hnodup := n.nodup_keys
  rw [← hrest, List.nodup_append] at hnodup
  have hnew : rest.filter (· ∉ m.keys) = rest :=
    List.filter_eq_self.2 fun k hk => decide_eq_true fun hmem => hnodup.2.2 k hmem k hk rfl
  refine ext_get? ?_ fun k => ?_
  · rw [keys_extend, ← hrest, List.filter_append, hnew]
    simp
  · rw [get?_extend]
    cases hk : n.get? k with
    | some x => rfl
    | none =>
        rw [get?_eq_none_iff] at hk
        rw [Option.none_or, get?_eq_none_iff]
        exact fun hmem => hk (hrest ▸ List.mem_append_left rest hmem)

/-! ## Keys of which some repeat

A key that is stored again stays where it stood first, so the keys of a map are those that were
stored, with every later repetition left out. -/

theorem eraseDups_filter (p : String → Bool) (l : List String) :
    (l.filter p).eraseDups = l.eraseDups.filter p := by
  match l with
  | [] => rfl
  | k :: r =>
      have ih := eraseDups_filter p (r.filter fun k' => !k' == k)
      rw [List.eraseDups_cons, List.filter_cons, List.filter_cons, ← ih]
      cases hk : p k with
      | true =>
          rw [if_pos rfl, if_pos rfl, List.eraseDups_cons, List.filter_filter, List.filter_filter]
          simp only [Bool.and_comm]
      | false =>
          have hrest : (r.filter fun k' => !k' == k).filter p = r.filter p := by
            rw [List.filter_filter]
            refine List.filter_congr fun k' _ => ?_
            by_cases h : k' = k
            · simp [h, hk]
            · simp [h]
          rw [if_neg Bool.false_ne_true, if_neg Bool.false_ne_true, hrest]
termination_by l.length
decreasing_by exact Nat.lt_succ_of_le (List.length_filter_le _ _)

theorem eraseDups_append (l l' : List String) :
    (l ++ l').eraseDups = l.eraseDups ++ l'.eraseDups.filter (· ∉ l.eraseDups) := by
  rw [List.eraseDups_append, List.removeAll, eraseDups_filter]
  simp

theorem keys_insertAll_eraseDups {x : List String} (h : m.keys = x.eraseDups)
    (l : List (String × α)) : (m.insertAll l).keys = (x ++ l.map Prod.fst).eraseDups := by
  induction l generalizing m x with
  | nil => rw [insertAll_nil, h, List.map_nil, List.append_nil]
  | cons e r ih =>
      have hkey : (m.insert e.1 e.2).keys = (x ++ [e.1]).eraseDups := by
        have hone : [e.1].eraseDups = [e.1] := rfl
        rw [keys_insert, h, eraseDups_append, hone]
        by_cases hmem : e.1 ∈ x
        · simp [hmem]
        · simp [hmem]
      rw [insertAll_cons, ih hkey, List.map_cons, List.append_assoc]
      rfl

theorem keys_ofList (l : List (String × α)) : (ofList l).keys = (l.map Prod.fst).eraseDups :=
  keys_insertAll_eraseDups (m := empty) (x := []) rfl l

theorem keys_extend_eraseDups {x y : List String} (hm : m.keys = x.eraseDups)
    (hn : n.keys = y.eraseDups) : (m.extend n).keys = (x ++ y).eraseDups := by
  rw [keys_extend, hm, hn, eraseDups_append]

theorem keys_eraseDups (m : OrderedMap α) : m.keys = m.keys.eraseDups :=
  (congrArg keys (ofList_entries m)).symm.trans (keys_ofList m.entries)

/-! ## Rewritten and selected values -/

@[simp] theorem get?_map (f : String → α → β) (m : OrderedMap α) (k : String) :
    (m.map f).get? k = (m.get? k).map (f k) := lookup_map_snd f m.entries k

theorem entries_map (f : String → α → β) (m : OrderedMap α) :
    (m.map f).entries = m.entries.map fun e => (e.1, f e.1 e.2) := rfl

theorem map_map {γ : Type _} (f : String → α → β) (g : String → β → γ) (m : OrderedMap α) :
    (m.map f).map g = m.map fun k x => g k (f k x) :=
  ext_entries (List.map_map ..)

theorem map_eq_self {f : String → α → α} (h : ∀ k x, m.get? k = some x → f k x = x) :
    m.map f = m := by
  refine ext_get? (keys_map f m) fun k => ?_
  rw [get?_map]
  cases hx : m.get? k with
  | none => rfl
  | some x => rw [Option.map_some, h k x hx]

theorem contains_map (f : String → α → β) (m : OrderedMap α) (k : String) :
    (m.map f).contains k = m.contains k := by
  rw [contains, contains, get?_map, Option.isSome_map]

theorem isEmpty_map (f : String → α → β) (m : OrderedMap α) : (m.map f).isEmpty = m.isEmpty :=
  List.isEmpty_map

theorem map_insert (f : String → α → β) (m : OrderedMap α) (k : String) (x : α) :
    (m.insert k x).map f = (m.map f).insert k (f k x) := by
  refine ext_get? ?_ fun k' => ?_
  · simp only [keys_map, keys_insert]
  · rw [get?_map, get?_insert, get?_insert, get?_map]
    split
    · next h => rw [h, Option.map_some]
    · rfl

theorem map_ofList (f : String → α → β) (l : List (String × α)) :
    (ofList l).map f = ofList (l.map fun e => (e.1, f e.1 e.2)) := by
  have hall : ∀ m : OrderedMap α,
      (m.insertAll l).map f = (m.map f).insertAll (l.map fun e => (e.1, f e.1 e.2)) := by
    induction l with
    | nil => exact fun m => rfl
    | cons e r ih =>
        intro m
        rw [insertAll_cons, ih, map_insert, List.map_cons, insertAll_cons]
  exact hall empty

theorem get?_filter_iff {p : String → α → Bool} {m : OrderedMap α} {k : String} {x : α} :
    (m.filter p).get? k = some x ↔ m.get? k = some x ∧ p k x = true := by
  rw [← mem_entries_iff, ← mem_entries_iff, filter, List.mem_filter]

theorem get?_filter_of_keeps {p : String → α → Bool} {k : String} (h : ∀ x, p k x = true)
    (m : OrderedMap α) : (m.filter p).get? k = m.get? k := by
  refine Option.ext fun x => ?_
  rw [get?_filter_iff, h x, eq_self, and_true]

theorem keys_filter (p : String → Bool) (m : OrderedMap α) :
    (m.filter fun k _ => p k).keys = m.keys.filter p := List.filter_map.symm

theorem filter_eq_self {p : String → α → Bool} (h : ∀ k x, m.get? k = some x → p k x = true) :
    m.filter p = m :=
  ext_entries (List.filter_eq_self.2 fun e he => h e.1 e.2 (mem_entries_iff.1 he))

/-- What is selected is the largest choice of entries that all pass. -/
theorem sublist_entries_filter {p : String → α → Bool} (hsub : m.entries.Sublist n.entries)
    (h : ∀ k x, m.get? k = some x → p k x = true) :
    m.entries.Sublist (n.filter p).entries := by
  rw [← filter_eq_self h]
  exact hsub.filter _

/-! ## Another order

Looking a key up does not depend on where it stands, and nothing but the order can differ between
maps that answer alike. -/

theorem perm_entries_iff : m.entries.Perm n.entries ↔ ∀ k, m.get? k = n.get? k := by
  constructor
  · refine fun h k => Option.ext fun x => ?_
    rw [← mem_entries_iff, ← mem_entries_iff, h.mem_iff]
  · intro h
    refine (List.perm_ext_iff_of_nodup (.of_map _ m.nodup) (.of_map _ n.nodup)).2 fun e => ?_
    obtain ⟨k, x⟩ := e
    rw [mem_entries_iff, mem_entries_iff, h]

end OrderedMap

end SchemaDdl
