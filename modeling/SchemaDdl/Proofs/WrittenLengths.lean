import Mathlib.Data.Nat.Digits.Defs
import SchemaDdl.Proofs.CreatedColumns
import SchemaDdl.Proofs.DividedTexts
import SchemaDdl.Proofs.StatementTexts

/-!
# Lengths that are written as texts

The length of a field may be a text, and a text is three things to the two
functions that look at it: a number, a size word for the types of long texts, or
nothing of use. `Spells` says which texts are numbers, without saying how they
are read: decimal digits, as many leading zeros as one likes, perhaps a plus
sign, white space around it all. Such a text counts if its number fits 32 bits.

A text that counts is no size word, so the two functions do not get in each
other's way, and of the length nothing but the number reaches the line of the
column. Text and number therefore give one line: the name, the type with the
number in parentheses behind it, or with nothing behind it if the number is zero,
and then the same attributes.
-/

namespace SchemaDdl

/-! ## Numbers as texts -/

namespace Length

open Text

/-- The number that a digit stands for. -/
def digit (c : Char) : Nat := c.toNat - '0'.toNat

/-- The text is the number in decimal digits, with white space around it and perhaps with a plus
sign. -/
def Spells (s : String) (n : Nat) : Prop :=
  ∃ before sign digits after, s.toList = before ++ (sign ++ digits) ++ after ∧
    (∀ c ∈ before, isBlank c = true) ∧ (∀ c ∈ after, isBlank c = true) ∧
    (sign = [] ∨ sign = ['+']) ∧ digits ≠ [] ∧ (∀ c ∈ digits, c.isDigit = true) ∧
    Nat.ofDigits 10 (digits.reverse.map digit) = n

theorem foldl_digit (cs : List Char) :
    cs.foldl (fun n c => n * 10 + (c.toNat - '0'.toNat)) 0 =
      Nat.ofDigits 10 (cs.reverse.map digit) := by
  rw [Nat.ofDigits_eq_foldr, List.foldr_map, List.foldr_reverse]
  congr 1
  funext n c
  rw [Nat.mul_comm, Nat.add_comm]
  rfl

theorem digitsValue_eq_some_iff {cs : List Char} {n : Nat} :
    digitsValue cs = some n ↔
      cs ≠ [] ∧ (∀ c ∈ cs, c.isDigit = true) ∧ Nat.ofDigits 10 (cs.reverse.map digit) = n := by
  rw [digitsValue, ← foldl_digit, Option.ite_none_left_eq_some]
  simp [and_assoc]

/-- The text without a plus sign in front. -/
def withoutPlus : List Char → List Char
  | '+' :: r => r
  | cs => cs

theorem sizeOfText_eq (s : String) :
    sizeOfText s = (digitsValue (withoutPlus (trim s.toList))).bind fun n =>
      if n < sizeLimit then some (.ofNat n) else none :=
  rfl

theorem exists_eq_append_withoutPlus (cs : List Char) :
    ∃ sign, (sign = [] ∨ sign = ['+']) ∧ cs = sign ++ withoutPlus cs := by
  unfold withoutPlus
  split
  · exact ⟨['+'], .inr rfl, rfl⟩
  · exact ⟨[], .inl rfl, rfl⟩

theorem withoutPlus_append {sign digits : List Char} (hsign : sign = [] ∨ sign = ['+'])
    (hdigits : ∀ c ∈ digits, c.isDigit = true) : withoutPlus (sign ++ digits) = digits := by
  rcases hsign with rfl | rfl
  · rw [List.nil_append]
    unfold withoutPlus
    split
    · exact absurd (hdigits '+' List.mem_cons_self) (by decide)
    · rfl
  · rfl

theorem sizeOfText_eq_some_iff {s : String} {n : UInt32} :
    sizeOfText s = some n ↔ Spells s n.toNat := by
  rw [sizeOfText_eq]
  simp only [Option.bind_eq_some_iff, digitsValue_eq_some_iff, Option.ite_none_right_eq_some]
  constructor
  · rintro ⟨m, ⟨hne, hdigits, rfl⟩, hlt, heq⟩
    obtain ⟨before, after, hs, hbefore, hafter⟩ := exists_eq_append_trim s.toList
    obtain ⟨sign, hsign, htrim⟩ := exists_eq_append_withoutPlus (trim s.toList)
    refine ⟨before, sign, _, after, ?_, hbefore, hafter, hsign, hne, hdigits, ?_⟩
    · rwa [← htrim]
    · obtain rfl := Option.some.inj heq
      exact (UInt32.toNat_ofNat_of_lt hlt).symm
  · rintro ⟨before, sign, digits, after, hs, hbefore, hafter, hsign, hne, hdigits, hvalue⟩
    have hcore : ∀ c ∈ sign ++ digits, isBlank c = false := by
      intro c hc
      rcases List.mem_append.1 hc with hc | hc
      · rcases hsign with rfl | rfl
        · cases hc
        · obtain rfl := List.mem_singleton.1 hc
          decide
      · exact isBlank_of_isDigit (hdigits c hc)
    have htrim : trim s.toList = sign ++ digits := by
      rw [hs]
      exact trim_append hbefore hafter (List.append_ne_nil_of_right_ne_nil _ hne) hcore
    refine ⟨n.toNat, ?_, n.toNat_lt, ?_⟩
    · rw [htrim, withoutPlus_append hsign hdigits]
      exact ⟨hne, hdigits, hvalue⟩
    · rw [UInt32.ofNat_toNat]

/-- A text counts as the number that it spells, up to the largest of 32 bits. -/
theorem asSize_modifier_eq_some_iff {s : String} {n : Nat} :
    (modifier s).asSize.map UInt32.toNat = some n ↔ Spells s n ∧ n ≤ 4294967295 := by
  rw [Option.map_eq_some_iff, asSize]
  constructor
  · rintro ⟨m, hm, rfl⟩
    exact ⟨sizeOfText_eq_some_iff.1 hm, Nat.le_of_lt_succ m.toNat_lt⟩
  · rintro ⟨hspells, hle⟩
    have hm : (UInt32.ofNat n).toNat = n := UInt32.toNat_ofNat_of_lt (Nat.lt_succ_of_le hle)
    exact ⟨.ofNat n, sizeOfText_eq_some_iff.2 (hm.symm ▸ hspells), hm⟩

end Length

/-! ## Lengths in a column -/

namespace AbstractType

variable {s : String} {n : UInt32}

/-- No size word is a number. -/
theorem sizeWord_of_isSome (h : (Length.modifier s).asSize.isSome = true) :
    sizeWord (some (.modifier s)) = "" := by
  unfold sizeWord
  split
  · next heq =>
      cases heq
      exact absurd h (by decide)
  · next heq =>
      cases heq
      exact absurd h (by decide)
  · next heq =>
      cases heq
      exact absurd h (by decide)
  · rfl

theorem sqlName_modifier (t : AbstractType) (h : (Length.modifier s).asSize.isSome = true) :
    t.sqlName (some (.modifier s)) = t.baseName := by
  rw [sqlName, sizeWord_of_isSome h, String.empty_append, ite_self]

theorem sqlName_size (t : AbstractType) (n : UInt32) : t.sqlName (some (.size n)) = t.baseName :=
  ite_self _

theorem writtenLength_of_asSize {l : Length} (t : AbstractType) (h : l.asSize = some n) :
    t.writtenLength (some l) = if n = 0 then none else some (toString n.toNat) := by
  rw [writtenLength, Option.bind_eq_bind, Option.bind_some, h]

end AbstractType

namespace Field

/-- The same field with another length. -/
def withLength (f : Field) (l : Length) : Field := { f with length := some l }

theorem coerced_withLength (f : Field) (l : Length) :
    (f.withLength l).coerced = f.coerced.withLength l := by
  rw [coerced, coerced, withLength]
  split
  · rfl
  · rfl

/-- Of a length that is a number nothing but the number is left in the type of a column. -/
theorem exists_ofField_withLength {f : Field} {t : AbstractType} {l : Length} {n : UInt32}
    (ht : AbstractType.ofName f.typeName = .ok t) (hl : l.asSize = some n)
    (hname : t.sqlName (some l) = t.baseName) :
    ∃ typed, TypedField.ofField (f.withLength l) = .ok typed ∧
      typed.typeText = t.baseName ++ (if n = 0 then "" else "(" ++ toString n.toNat ++ ")") ∧
      typed.type = t ∧ typed.field = f.coerced.withLength l := by
  refine ⟨_, ofField_ok_iff.2 ⟨t, ht, rfl⟩, ?_, rfl, f.coerced_withLength l⟩
  have hlength : t.writtenLength (f.withLength l).length =
      if n = 0 then none else some (toString n.toNat) := t.writtenLength_of_asSize hl
  have hsql : t.sqlName (f.withLength l).length = t.baseName := hname
  rw [TypedField.typeText, hlength, hsql]
  by_cases hn : n = 0
  · rw [if_pos hn, if_pos hn, String.append_empty]
  · rw [if_neg hn, if_neg hn, ← String.append_assoc, ← String.append_assoc]

end Field

open Sql in
/-- A text is taken for the number that it spells, up to the largest of 32 bits, and for none
otherwise; and a column whose length is such a text has the line that it has with the number, in
which that number and nothing else stands behind the name of the type. -/
theorem Length.asSize_modifier_columnLine (s : String) :
    (∀ n : Nat, (modifier s).asSize.map UInt32.toNat = some n ↔ Spells s n ∧ n ≤ 4294967295) ∧
    ∀ n : UInt32, Spells s n.toNat → ∀ (f : Field) (t : AbstractType),
      AbstractType.ofName f.typeName = .ok t →
      ∃ typed typed', TypedField.ofField (f.withLength (.modifier s)) = .ok typed ∧
        TypedField.ofField (f.withLength (.size n)) = .ok typed' ∧
        typed.typeText = t.baseName ++ (if n = 0 then "" else "(" ++ toString n.toNat ++ ")") ∧
        ∀ name collate,
          columnLine name typed collate =
            quoteName name ++ " " ++ typed.typeText ++ attributes typed collate ++
              (if typed.field.isAutoIncrement then " AUTO_INCREMENT" else "") ∧
          columnLine name typed collate = columnLine name typed' collate := by
  refine ⟨fun n => asSize_modifier_eq_some_iff, fun n hspells f t ht => ?_⟩
  have hsize : (modifier s).asSize = some n := sizeOfText_eq_some_iff.2 hspells
  have hsome : (modifier s).asSize.isSome = true := by
    rw [hsize]
    rfl
  obtain ⟨typed, htyped, htext, htype, hfield⟩ :=
    Field.exists_ofField_withLength ht hsize (t.sqlName_modifier hsome)
  obtain ⟨typed', htyped', htext', htype', hfield'⟩ :=
    Field.exists_ofField_withLength (l := .size n) ht rfl (t.sqlName_size n)
  refine ⟨typed, typed', htyped, htyped', htext, fun name collate =>
    ⟨columnLine_eq name typed collate, ?_⟩⟩
  rw [columnLine, columnLine, htext, htext', htype, htype', hfield, hfield']
  rfl

open Sql in
/-- A text with zeros, a sign and white space of two kinds, as the length of a long text. -/
theorem Length.asSize_padded_columnLine :
    Spells "\u2003+007\n" 7 ∧ AbstractType.ofName "json" = .ok .json ∧
      ∃ typed typed',
        TypedField.ofField (({ typeName := "json" } : Field).withLength (.modifier "\u2003+007\n")) =
          .ok typed ∧
        TypedField.ofField (({ typeName := "json" } : Field).withLength (.size 7)) = .ok typed' ∧
        typed.typeText = "TEXT(7)" ∧
        ∀ name collate,
          columnLine name typed collate =
            quoteName name ++ " " ++ "TEXT(7)" ++ " COLLATE " ++ collate ∧
          columnLine name typed collate = columnLine name typed' collate := by
  have hspells : Spells "\u2003+007\n" 7 :=
    ⟨['\u2003'], ['+'], ['0', '0', '7'], ['\n'], by decide, List.all_eq_true.1 rfl,
      List.all_eq_true.1 rfl, .inr rfl, by decide, List.all_eq_true.1 rfl, by decide⟩
  have hjson : AbstractType.ofName "json" = .ok .json := rfl
  obtain ⟨typed, typed', htyped, htyped', htext, hline⟩ :=
    (asSize_modifier_columnLine "\u2003+007\n").2 7 hspells { typeName := "json" } .json hjson
  have htype : typed.typeText = "TEXT(7)" := htext.trans (by decide)
  refine ⟨hspells, hjson, typed, typed', htyped, htyped', htype, fun name collate => ?_⟩
  obtain ⟨hparts, hsame⟩ := hline name collate
  refine ⟨?_, hsame⟩
  -- But for the collation the field asks for nothing.
  have hrest : attributes typed collate = " COLLATE " ++ collate ++ "" ++ "" ++ "" ∧
      typed.field.isAutoIncrement = false := by
    obtain rfl := Except.ok.inj htyped
    exact ⟨rfl, rfl⟩
  rw [hparts, htype, hrest.1, hrest.2, if_neg Bool.false_ne_true]
  simp only [String.append_empty, String.append_assoc]

end SchemaDdl
