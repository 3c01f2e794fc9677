import Mathlib.Data.List.Nodup
import SchemaDdl.ConstraintName.Seeded
import SchemaDdl.Proofs.ValidNames

/-!
# What is spelled by a shuffled alphabet

A shuffle is a run of swaps, and a swap is a permutation whatever places are
swapped, so nothing has to be known of the random words. A name is cut off a
shuffled alphabet: its characters are different because those of the alphabet are,
and they stay different as capitals because the alphabet has every letter once.

`WellFormed` says this of a name, and it is more than an identifier needs.
-/

namespace SchemaDdl.ConstraintName

/-! ## Shuffles -/

theorem swap_perm {α : Type} (i j : Nat) (l : List α) : (swap i j l).Perm l := by
  unfold swap
  split
  · next x y hx hy =>
      obtain ⟨hi, rfl⟩ := List.getElem?_eq_some_iff.1 hx
      obtain ⟨hj, rfl⟩ := List.getElem?_eq_some_iff.1 hy
      exact List.set_set_perm hi hj
  · exact List.Perm.refl l

theorem shuffleFrom_perm {α : Type} (places : List Nat) (c : Chunk) (g : Generator) (l : List α) :
    (shuffleFrom places c g l).1.Perm l := by
  induction places generalizing c g l with
  | nil => exact List.Perm.refl l
  | cons i r ih =>
      rw [shuffleFrom]
      exact (ih _ _ _).trans (swap_perm i _ l)

theorem shuffle_perm {α : Type} (g : Generator) (l : List α) : (shuffle g l).1.Perm l :=
  shuffleFrom_perm _ _ g l

/-! ## Names -/

def capitals : List Char := "0123456789ABCDEFGHIJKLMNOPQRSTUVWXYZ".toList

/-- `FK_` and fifteen digits and capitals, no two of them alike. -/
def WellFormed (name : String) : Prop :=
  ∃ code, name = "FK_" ++ String.ofList code ∧ code.length = 15 ∧ code.Nodup ∧
    ∀ c ∈ code, c ∈ capitals

theorem length_alphabet : alphabet.length = 36 := by decide +kernel

theorem map_toUpper_alphabet : alphabet.map Char.toUpper = capitals := by decide +kernel

theorem nodup_capitals : capitals.Nodup := by decide +kernel

theorem map_toUpper_perm {l : List Char} (h : l.Perm alphabet) :
    (l.map Char.toUpper).Perm capitals := by
  have hmap := h.map Char.toUpper
  rwa [map_toUpper_alphabet] at hmap

theorem wellFormed_spell {l : List Char} (h : l.Perm alphabet) : WellFormed (spell l) := by
  have hperm := map_toUpper_perm h
  have hsub : ((l.take codeLength).map Char.toUpper).Sublist (l.map Char.toUpper) :=
    (List.take_sublist codeLength l).map Char.toUpper
  have hlength : l.length = 36 := h.length_eq.trans length_alphabet
  refine ⟨(l.take codeLength).map Char.toUpper, rfl, ?_, ?_, ?_⟩
  · rw [List.length_map, List.length_take, codeLength]
    omega
  · exact (hperm.nodup_iff.2 nodup_capitals).sublist hsub
  · intro c hc
    exact hperm.subset (hsub.subset hc)

theorem utf8Size_of_mem_capitals {c : Char} (h : c ∈ capitals) : c.utf8Size = 1 := by
  have hall : (capitals.all fun c => c.utf8Size = 1) = true := by decide +kernel
  exact of_decide_eq_true (List.all_eq_true.1 hall c h)

theorem isTail_of_mem_capitals {c : Char} (h : c ∈ capitals) : Identifier.isTail c = true := by
  have hall : capitals.all Identifier.isTail = true := by decide +kernel
  exact List.all_eq_true.1 hall c h

theorem utf8ByteSize_of_capitals {code : List Char} (h : ∀ c ∈ code, c ∈ capitals) :
    (String.ofList code).utf8ByteSize = code.length := by
  induction code with
  | nil => rfl
  | cons c r ih =>
      obtain ⟨hc, hr⟩ := List.forall_mem_cons.1 h
      rw [String.ofList_cons, String.utf8ByteSize_append, String.utf8ByteSize_singleton,
        utf8Size_of_mem_capitals hc, ih hr, List.length_cons]
      omega

theorem WellFormed.check_eq_ok {name : String} (h : WellFormed name) :
    Identifier.check name = .ok () := by
  obtain ⟨code, rfl, hlength, -, hcode⟩ := h
  have hspelled : Identifier.IsSpelled (String.ofList code) := by
    intro c hc
    rw [String.toList_ofList] at hc
    exact isTail_of_mem_capitals (hcode c hc)
  have hfront : Identifier.isValid "FK_" = true := by decide
  have hfrontSize : "FK_".utf8ByteSize = 3 := by decide
  rw [Identifier.check_eq_ok_iff, Identifier.isValid_append_iff hfront hspelled,
    utf8ByteSize_of_capitals hcode, hlength, hfrontSize, Identifier.maxBytes]
  omega

/-! ## Draws -/

theorem wellFormed_draw (g : Generator) : WellFormed (draw g).1 :=
  wellFormed_spell (shuffle_perm g alphabet)

/-- The names that are listed are the ones that a source of names answers one by one. -/
theorem names_eq_map (count : Nat) (g : Generator) :
    names count g = (List.range count).map fun k => (draw (generatorAfter g k)).1 := by
  induction count generalizing g with
  | zero => rfl
  | succ n ih =>
      simp only [names, ih, generatorAfter, List.range_succ_eq_map, List.map_cons, List.map_map,
        Function.comp_def]

theorem wellFormed_of_mem_names {count : Nat} {g : Generator} {name : String}
    (h : name ∈ names count g) : WellFormed name := by
  rw [names_eq_map] at h
  obtain ⟨k, -, rfl⟩ := List.mem_map.1 h
  exact wellFormed_draw _

/-- Whatever permutation a shuffle makes of the alphabet, the name is well formed. So are all names
that a generator draws and that are drawn for a compilation from a seed, and a well-formed name is
an identifier. -/
theorem names_wellFormed :
    (∀ l : List Char, l.Perm alphabet → WellFormed (spell l)) ∧
      (∀ (g : Generator) (count : Nat), (names count g).length = count ∧
        ∀ name ∈ names count g, WellFormed name) ∧
      (∀ (seed : UInt64) (k : Nat), WellFormed ((seeded seed).name k)) ∧
      ∀ name, WellFormed name → Identifier.check name = .ok () := by
  refine ⟨fun l h => wellFormed_spell h, fun g count => ⟨?_, fun name h => ?_⟩,
    fun seed k => wellFormed_draw _, fun name h => h.check_eq_ok⟩
  · rw [names_eq_map, List.length_map, List.length_range]
  · exact wellFormed_of_mem_names h

/-- The alphabet backwards, and the first of two names that are drawn from a seed. -/
theorem names_wellFormed_backwards :
    (alphabet.reverse.Perm alphabet ∧ spell alphabet.reverse = "FK_ZYXWVUTSRQPONML" ∧
      WellFormed "FK_ZYXWVUTSRQPONML" ∧ Identifier.check "FK_ZYXWVUTSRQPONML" = .ok ()) ∧
      ∃ name ∈ names 2 (.ofSeed 7), WellFormed name ∧ Identifier.check name = .ok () := by
  obtain ⟨hspell, hnames, -, hcheck⟩ := names_wellFormed
  have hspelled : spell alphabet.reverse = "FK_ZYXWVUTSRQPONML" := by decide +kernel
  have hbackwards := hspell _ (List.reverse_perm alphabet)
  rw [hspelled] at hbackwards
  have hfirst : (draw (.ofSeed 7)).1 ∈ names 2 (.ofSeed 7) := List.mem_cons_self
  have hname := (hnames _ _).2 _ hfirst
  exact ⟨⟨List.reverse_perm _, hspelled, hbackwards, hcheck _ hbackwards⟩, _, hfirst, hname,
    hcheck _ hname⟩

end SchemaDdl.ConstraintName
