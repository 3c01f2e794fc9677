import SchemaDdl.Text.Blank

/-!
# Where a text is divided

Texts are put together from parts with a character between them, and nothing
keeps that character out of the parts. It takes two of them to lose the place: a
text that can be divided in two ways has the character in the longer of the two
first parts and in the longer of the two second ones. `divided_unique` asks for
no more than that one of these is not so. A part that is a number is always on
the safe side, since it is digits and nothing else.

White space around a text is another division, and its place cannot be lost as
long as what is inside has none.
-/

namespace SchemaDdl.Text

/-! ## A character between two parts -/

/-- A text is divided by a character in one way, unless the character stands in a first part and in
the second part of the other division as well. -/
theorem divided_unique {c : Char} {x y x' y' : List Char} (h : c ∉ x ∨ c ∉ y')
    (h' : c ∉ x' ∨ c ∉ y) (heq : x ++ c :: y = x' ++ c :: y') : x = x' ∧ y = y' := by
  -- If the places were not the same, the longer first part would go beyond the other's.
  rcases List.append_eq_append_iff.1 heq with ⟨z, hx, hy⟩ | ⟨z, hx, hy⟩
  · cases z with
    | nil => exact ⟨by rw [hx, List.append_nil], (List.cons.inj hy).2⟩
    | cons d z =>
        obtain ⟨rfl, rfl⟩ := List.cons.inj hy
        have hfirst : c ∈ x' := hx ▸ List.mem_append_right _ List.mem_cons_self
        have hsecond : c ∈ z ++ c :: y' := List.mem_append_right _ List.mem_cons_self
        exact (h'.elim (· hfirst) (· hsecond)).elim
  · cases z with
    | nil => exact ⟨by rw [hx, List.append_nil], (List.cons.inj hy).2.symm⟩
    | cons d z =>
        obtain ⟨rfl, rfl⟩ := List.cons.inj hy
        have hfirst : c ∈ x := hx ▸ List.mem_append_right _ List.mem_cons_self
        have hsecond : c ∈ z ++ c :: y := List.mem_append_right _ List.mem_cons_self
        exact (h.elim (· hfirst) (· hsecond)).elim

/-! ## Numbers -/

theorem not_mem_toString {c : Char} (hc : c.isDigit = false) (n : Nat) :
    c ∉ (toString n).toList := by
  intro h
  rw [Nat.toString_eq_repr, Nat.toList_repr] at h
  have hdigit := Nat.isDigit_of_mem_toDigits (by decide) (by decide) h
  cases hc.symm.trans hdigit

theorem toString_nat_injective {m n : Nat} (h : (toString m).toList = (toString n).toList) :
    m = n := by
  simp only [Nat.toString_eq_repr, Nat.toList_repr] at h
  rw [← Nat.ofDigitChars_ten_toDigits (n := m), h, Nat.ofDigitChars_ten_toDigits]

/-! ## White space around a text -/

theorem isBlank_of_isDigit {c : Char} (h : c.isDigit = true) : isBlank c = false := by
  obtain ⟨hle, hge⟩ : 48 ≤ c.toNat ∧ c.toNat ≤ 57 := Char.isDigit_iff_toNat.1 h
  refine Bool.eq_false_iff.2 fun hblank => ?_
  simp only [isBlank, Bool.or_eq_true, Bool.and_eq_true, decide_eq_true_iff] at hblank
  omega

theorem dropWhile_isBlank {cs : List Char} (h : ∀ c ∈ cs.head?, isBlank c = false) :
    cs.dropWhile isBlank = cs := by
  cases cs with
  | nil => rfl
  | cons c r => exact List.dropWhile_cons_of_neg (by rw [h c rfl]; exact Bool.false_ne_true)

/-- A text is its inside with white space on both sides. -/
theorem exists_eq_append_trim (cs : List Char) :
    ∃ before after, cs = before ++ trim cs ++ after ∧ (∀ c ∈ before, isBlank c = true) ∧
      ∀ c ∈ after, isBlank c = true := by
  refine ⟨cs.takeWhile isBlank, ((trimStart cs).reverse.takeWhile isBlank).reverse, ?_,
    List.all_eq_true.1 List.all_takeWhile, fun c hc => ?_⟩
  · rw [trim, trimEnd, List.append_assoc, ← List.reverse_append, List.takeWhile_append_dropWhile,
      List.reverse_reverse, trimStart, List.takeWhile_append_dropWhile]
  · exact List.all_eq_true.1 List.all_takeWhile c (List.mem_reverse.1 hc)

theorem trim_append {before core after : List Char} (hbefore : ∀ c ∈ before, isBlank c = true)
    (hafter : ∀ c ∈ after, isBlank c = true) (hne : core ≠ [])
    (hcore : ∀ c ∈ core, isBlank c = false) : trim (before ++ core ++ after) = core := by
  have hhead : ∀ c ∈ (core ++ after).head?, isBlank c = false := by
    obtain ⟨d, r, rfl⟩ := List.exists_cons_of_ne_nil hne
    rintro c hc
    obtain rfl := Option.some.inj hc
    exact hcore d List.mem_cons_self
  have hlast : ∀ c ∈ core.reverse.head?, isBlank c = false := fun c hc =>
    hcore c (List.mem_reverse.1 (List.mem_of_mem_head? hc))
  rw [trim, trimStart, List.append_assoc, List.dropWhile_append_of_pos hbefore,
    dropWhile_isBlank hhead, trimEnd, List.reverse_append,
    List.dropWhile_append_of_pos fun c hc => hafter c (List.mem_reverse.1 hc),
    dropWhile_isBlank hlast, List.reverse_reverse]

end SchemaDdl.Text
