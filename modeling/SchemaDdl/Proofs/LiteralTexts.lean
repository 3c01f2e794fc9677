import Mathlib.Data.List.Induction
import SchemaDdl.Sql.Literal

/-!
# Default texts as the database reads them

A default text is written between single quotes, and a quote in it is written
twice. Doubling is one of two ways in which the database lets a character be
written. The other is a backslash, which takes the character behind it and makes
it stand for something else, and the writer leaves backslashes as they are. Only
before `%` and `_` a backslash keeps its place when it is read, for the sake of
patterns; anywhere else the text that is read is another one.

It may not even end where it was ended. A backslash before a quote takes one of
the two marks that were written for it, and a backslash at the end takes the
closing mark. From there on reading is out by one mark, and it either stops
inside the text or goes on behind it. This does not depend on how many
backslashes there are, but on how many stand together: of two the first takes
the second, and nothing is lost but one of them.

Both conditions are exact. `OnlyPatternEscapes` says when the text is read as it
was meant, and `PairedEscapes` when its literal ends where it should.
-/

namespace SchemaDdl.Sql

open Text.Quoted

/-! ## Reading a literal -/

/-- The character that takes the one behind it. -/
def escapeMark : Char := '\\'

/-- What a backslash and the character behind it stand for. -/
def escaped : Char → List Char
  | 'n' => ['\n']
  | 't' => ['\t']
  | 'r' => ['\r']
  | 'b' => ['\x08']
  | '0' => ['\x00']
  | 'Z' => ['\x1a']
  | '%' => [escapeMark, '%']
  | '_' => [escapeMark, '_']
  | c => [c]

/-- The text up to its closing mark, and what stands behind the mark. -/
def readTextBody : List Char → Option (List Char × List Char)
  | [] => none
  | [c] => if c = textMark then some ([], []) else none
  | c :: d :: r =>
    if c = escapeMark then (readTextBody r).map fun p => (escaped d ++ p.1, p.2)
    else if c = textMark then
      if d = textMark then (readTextBody r).map fun p => (textMark :: p.1, p.2)
      else some ([], d :: r)
    else (readTextBody (d :: r)).map fun p => (c :: p.1, p.2)

/-- The literal that the text begins with, and what stands behind it. -/
def readText? : List Char → Option (String × List Char)
  | [] => none
  | c :: r => if c = textMark then (readTextBody r).map fun p => (.ofList p.1, p.2) else none

variable {cs t rest after value : List Char} {c d : Char}

theorem textMark_ne_escapeMark : textMark ≠ escapeMark := by decide

theorem readTextBody_cons (hescape : c ≠ escapeMark) (hmark : c ≠ textMark) (t : List Char) :
    readTextBody (c :: t) = (readTextBody t).map fun p => (c :: p.1, p.2) := by
  cases t with
  | nil => exact if_neg hmark
  | cons d r => rw [readTextBody, if_neg hescape, if_neg hmark]

theorem readTextBody_escapeMark (d : Char) (t : List Char) :
    readTextBody (escapeMark :: d :: t) =
      (readTextBody t).map fun p => (escaped d ++ p.1, p.2) := by
  rw [readTextBody, if_pos rfl]

theorem readTextBody_doubled (t : List Char) :
    readTextBody (textMark :: textMark :: t) =
      (readTextBody t).map fun p => (textMark :: p.1, p.2) := by
  rw [readTextBody, if_neg textMark_ne_escapeMark, if_pos rfl, if_pos rfl]

theorem readTextBody_closed (h : rest.head? ≠ some textMark) :
    readTextBody (textMark :: rest) = some ([], rest) := by
  cases rest with
  | nil => rfl
  | cons d r =>
      have hd : d ≠ textMark := fun hd => h (congrArg some hd)
      rw [readTextBody, if_neg textMark_ne_escapeMark, if_pos rfl, if_neg hd]

/-! ### What is read was there

Quotes come and go in reading, by halves and in pairs, so what is counted are the
other characters. -/

/-- How many characters of the text are not quotes. -/
def bulk (cs : List Char) : Nat := cs.countP (· ≠ textMark)

theorem bulk_nil : bulk [] = 0 := rfl

theorem bulk_cons (c : Char) (cs : List Char) :
    bulk (c :: cs) = bulk cs + if c = textMark then 0 else 1 := by
  rw [bulk, bulk, List.countP_cons]
  by_cases hc : c = textMark <;> simp [hc]

theorem bulk_append (cs ds : List Char) : bulk (cs ++ ds) = bulk cs + bulk ds :=
  List.countP_append

theorem bulk_encode (cs : List Char) : bulk (encode textMark cs) = bulk cs := by
  induction cs with
  | nil => rfl
  | cons c r ih =>
      rw [encode]
      split
      · next hc => rw [bulk_cons, bulk_cons, bulk_cons, ih, if_pos rfl, if_pos hc]
      · rw [bulk_cons, bulk_cons, ih]

theorem bulk_escaped_le (c : Char) : bulk (escaped c) ≤ bulk [escapeMark, c] := by
  unfold escaped
  split
  case h_9 =>
      rw [bulk_cons escapeMark]
      exact Nat.le_add_right _ _
  all_goals decide

theorem bulk_of_readTextBody (h : readTextBody t = some (value, after)) :
    bulk value + bulk after ≤ bulk t ∧ after.length < t.length := by
  fun_induction readTextBody t generalizing value with
  | case1 => cases h
  | case2 =>
      cases h
      exact ⟨Nat.zero_le _, Nat.zero_lt_one⟩
  | case3 => cases h
  | case4 d r ih =>
      obtain ⟨⟨w, rest⟩, hread, heq⟩ := Option.map_eq_some_iff.1 h
      cases heq
      obtain ⟨hbulk, hlength⟩ := ih hread
      have hescaped := bulk_escaped_le d
      simp only [bulk_append, bulk_cons, bulk_nil, List.length_cons] at *
      omega
  | case5 r _ ih =>
      obtain ⟨⟨w, rest⟩, hread, heq⟩ := Option.map_eq_some_iff.1 h
      cases heq
      obtain ⟨hbulk, hlength⟩ := ih hread
      simp only [bulk_cons, List.length_cons] at *
      omega
  | case6 d r _ hd =>
      cases h
      simp only [bulk_cons, bulk_nil, List.length_cons, if_true] at *
      omega
  | case7 c d r _ _ ih =>
      obtain ⟨⟨w, rest⟩, hread, heq⟩ := Option.map_eq_some_iff.1 h
      cases heq
      obtain ⟨hbulk, hlength⟩ := ih hread
      simp only [bulk_cons, List.length_cons] at *
      omega

theorem ne_of_readTextBody (h : readTextBody t = some (value, after)) : after ≠ t := by
  rintro rfl
  exact absurd (bulk_of_readTextBody h).2 (Nat.lt_irrefl _)

/-! ## Reading what was written -/

/-- A text with its quotes doubled, its closing mark, and what stands behind it. -/
def closed (cs rest : List Char) : List Char := encode textMark cs ++ textMark :: rest

theorem readTextBody_closed_nil (h : rest.head? ≠ some textMark) :
    readTextBody (closed [] rest) = some ([], rest) :=
  readTextBody_closed h

theorem readTextBody_closed_cons (hc : c ≠ escapeMark) (cs rest : List Char) :
    readTextBody (closed (c :: cs) rest) =
      (readTextBody (closed cs rest)).map fun p => (c :: p.1, p.2) := by
  rw [closed, encode]
  split
  · next hmark => rw [List.cons_append, List.cons_append, readTextBody_doubled, hmark, closed]
  · next hmark => rw [List.cons_append, readTextBody_cons hc hmark, closed]

/-- A backslash takes the next character as a whole, unless that is a quote. -/
theorem readTextBody_closed_taken (hd : d ≠ textMark) (cs rest : List Char) :
    readTextBody (closed (escapeMark :: d :: cs) rest) =
      (readTextBody (closed cs rest)).map fun p => (escaped d ++ p.1, p.2) := by
  rw [closed, encode, if_neg textMark_ne_escapeMark.symm, encode, if_neg hd, List.cons_append,
    List.cons_append, readTextBody_escapeMark, closed]

/-- With one mark too many in front a text is not read up to its own closing mark: that mark is the
second of a pair, or an earlier one is not and ends the reading. -/
theorem ne_of_readTextBody_half (cs : List Char)
    (h : readTextBody (textMark :: closed cs rest) = some (value, after)) : after ≠ rest := by
  induction cs generalizing value with
  | nil =>
      obtain ⟨⟨w, r⟩, hread, heq⟩ :=
        Option.map_eq_some_iff.1 ((readTextBody_doubled _).symm.trans h)
      cases heq
      exact ne_of_readTextBody hread
  | cons c cs ih =>
      by_cases hc : c = textMark
      · rw [hc, closed, encode, if_pos rfl, List.cons_append, List.cons_append,
          readTextBody_doubled] at h
        obtain ⟨⟨w, r⟩, hread, heq⟩ := Option.map_eq_some_iff.1 h
        cases heq
        exact ih hread
      · have hhead : (closed (c :: cs) rest).head? ≠ some textMark := by
          rw [closed, encode, if_neg hc]
          exact fun h => hc (Option.some.inj h)
        have hends := (readTextBody_closed hhead).symm.trans h
        have hafter : closed (c :: cs) rest = after := congrArg Prod.snd (Option.some.inj hends)
        rintro rfl
        have hlength := congrArg List.length hafter
        rw [closed, List.length_append, List.length_cons] at hlength
        omega

/-- Before a quote or at the end a backslash takes a mark that reading would need. -/
theorem ne_of_readTextBody_lost (hcs : ∀ c ∈ cs.head?, c = textMark)
    (h : readTextBody (closed (escapeMark :: cs) rest) = some (value, after)) : after ≠ rest := by
  rw [closed, encode, if_neg textMark_ne_escapeMark.symm, List.cons_append] at h
  cases cs with
  | nil =>
      obtain ⟨⟨w, r⟩, hread, heq⟩ :=
        Option.map_eq_some_iff.1 ((readTextBody_escapeMark _ _).symm.trans h)
      cases heq
      exact ne_of_readTextBody hread
  | cons c cs =>
      rw [encode, if_pos (hcs c rfl), List.cons_append, readTextBody_escapeMark] at h
      obtain ⟨⟨w, r⟩, hread, heq⟩ := Option.map_eq_some_iff.1 h
      cases heq
      exact ne_of_readTextBody_half cs hread

/-- A text from its beginning, where a backslash is looked at together with what it takes. -/
@[elab_as_elim]
theorem escapes_induction {motive : List Char → Prop} (nil : motive [])
    (plain : ∀ c cs, c ≠ escapeMark → motive cs → motive (c :: cs))
    (taken : ∀ d cs, d ≠ textMark → motive cs → motive (escapeMark :: d :: cs))
    (lost : ∀ cs, (∀ c ∈ cs.head?, c = textMark) → motive (escapeMark :: cs))
    (cs : List Char) : motive cs := by
  induction cs using List.twoStepInduction with
  | nil => exact nil
  | singleton c =>
      by_cases hc : c = escapeMark
      · exact hc ▸ lost [] fun _ h => nomatch h
      · exact plain c [] hc nil
  | cons_cons c d cs ih₂ ih =>
      by_cases hc : c = escapeMark
      · by_cases hd : d = textMark
        · exact hc ▸ lost (d :: cs) fun _ h => Option.some.inj h ▸ hd
        · exact hc ▸ taken d cs hd ih₂
      · exact plain c (d :: cs) hc (ih d)

/-! ## Texts that are read as they are -/

/-- Each backslash stands before `%` or `_`. -/
def OnlyPatternEscapes (cs : List Char) : Prop :=
  ∀ before after, cs = before ++ escapeMark :: after →
    after.head? = some '%' ∨ after.head? = some '_'

theorem onlyPatternEscapes_nil : OnlyPatternEscapes [] := by
  intro before after h
  exact absurd h.symm (List.append_ne_nil_of_right_ne_nil _ (List.cons_ne_nil _ _))

theorem onlyPatternEscapes_cons_iff :
    OnlyPatternEscapes (c :: cs) ↔
      (c = escapeMark → cs.head? = some '%' ∨ cs.head? = some '_') ∧ OnlyPatternEscapes cs := by
  constructor
  · intro h
    exact ⟨fun hc => h [] cs (by rw [hc]; rfl), fun before after heq =>
      h (c :: before) after (by rw [heq]; rfl)⟩
  · rintro ⟨hhead, htail⟩ before after heq
    cases before with
    | nil =>
        obtain ⟨rfl, rfl⟩ := List.cons.inj heq
        exact hhead rfl
    | cons b before =>
        obtain ⟨rfl, rfl⟩ := List.cons.inj heq
        exact htail before after rfl

instance decidableOnlyPatternEscapes : (cs : List Char) → Decidable (OnlyPatternEscapes cs)
  | [] => isTrue onlyPatternEscapes_nil
  | _ :: cs =>
    have := decidableOnlyPatternEscapes cs
    decidable_of_iff _ onlyPatternEscapes_cons_iff.symm

/-- What a backslash and the next character stand for begins with a backslash if it keeps its place,
or if it takes another. -/
theorem escaped_eq_cons {ds : List Char} (h : escaped d ++ ds = escapeMark :: cs) :
    (d = '%' ∨ d = '_') ∧ cs = d :: ds ∨ cs = ds := by
  unfold escaped at h
  split at h
  case h_7 => exact .inl ⟨.inl rfl, (List.cons.inj h).2.symm⟩
  case h_8 => exact .inl ⟨.inr rfl, (List.cons.inj h).2.symm⟩
  case h_9 => exact .inr (List.cons.inj h).2.symm
  all_goals exact absurd (List.cons.inj h).1 (by decide)

theorem readTextBody_closed_eq_iff (h : rest.head? ≠ some textMark) (cs : List Char) :
    readTextBody (closed cs rest) = some (cs, rest) ↔ OnlyPatternEscapes cs := by
  induction cs using escapes_induction with
  | nil => exact iff_of_true (readTextBody_closed_nil h) onlyPatternEscapes_nil
  | plain c cs hc ih =>
      have hcons (o : Option (List Char × List Char)) :
          (o.map fun p => (c :: p.1, p.2)) = some (c :: cs, rest) ↔ o = some (cs, rest) := by
        cases o <;> simp [Prod.ext_iff]
      rw [readTextBody_closed_cons hc, onlyPatternEscapes_cons_iff,
        and_iff_right fun heq => absurd heq hc, ← ih, hcons]
  | taken d cs hd ih =>
      rw [readTextBody_closed_taken hd]
      constructor
      · intro hread
        obtain ⟨⟨w, r⟩, hread, heq⟩ := Option.map_eq_some_iff.1 hread
        obtain ⟨hw, hrest⟩ := Prod.mk.inj heq
        obtain rfl : r = rest := hrest
        rcases escaped_eq_cons hw with ⟨hpattern, hcs⟩ | rfl
        · obtain rfl := (List.cons.inj hcs).2
          have hnext : d ≠ escapeMark := by
            rcases hpattern with rfl | rfl <;> decide
          refine onlyPatternEscapes_cons_iff.2 ⟨fun _ => hpattern.imp (congrArg some) (congrArg some),
            onlyPatternEscapes_cons_iff.2 ⟨fun hescape => absurd hescape hnext, ih.1 hread⟩⟩
        · -- What follows would have to be read with one character more than was written.
          obtain ⟨hbulk, -⟩ := bulk_of_readTextBody hread
          rw [closed, bulk_append, bulk_encode, bulk_cons d, if_neg hd, bulk_cons textMark,
            if_pos rfl] at hbulk
          omega
      · intro honly
        obtain ⟨hhead, htail⟩ := onlyPatternEscapes_cons_iff.1 honly
        rw [ih.2 (onlyPatternEscapes_cons_iff.1 htail).2]
        rcases hhead rfl with hd | hd <;> obtain rfl := Option.some.inj hd <;> rfl
  | lost cs hcs =>
      refine iff_of_false (fun hread => ne_of_readTextBody_lost hcs hread rfl) fun honly => ?_
      rcases (onlyPatternEscapes_cons_iff.1 honly).1 rfl with hd | hd
      · exact absurd (hcs _ hd) (by decide)
      · exact absurd (hcs _ hd) (by decide)

/-! ## Texts that end where they were ended -/

/-- How many backslashes the text ends with. -/
def trailingEscapes (cs : List Char) : Nat := (cs.reverse.takeWhile (· = escapeMark)).length

theorem trailingEscapes_append (cs ds : List Char) :
    trailingEscapes (cs ++ ds) =
      if trailingEscapes ds = ds.length then ds.length + trailingEscapes cs
      else trailingEscapes ds := by
  unfold trailingEscapes
  rw [List.reverse_append, List.takeWhile_append, List.length_reverse]
  split
  · rw [List.length_append, List.length_reverse]
  · rfl

/-- Backslashes in pairs do not change whether those behind them are. -/
theorem trailingEscapes_append_mod (hcs : trailingEscapes cs % 2 = 0) (ds : List Char) :
    trailingEscapes (cs ++ ds) % 2 = trailingEscapes ds % 2 := by
  rw [trailingEscapes_append]
  split
  · omega
  · rfl

theorem trailingEscapes_plain (hc : c ≠ escapeMark) : trailingEscapes [c] % 2 = 0 := by
  simp [trailingEscapes, hc]

theorem trailingEscapes_taken (d : Char) : trailingEscapes [escapeMark, d] % 2 = 0 := by
  by_cases hd : d = escapeMark <;> simp [trailingEscapes, hd]

/-- Before each quote, and at the end, the backslashes are even in number. -/
def PairedEscapes (cs : List Char) : Prop :=
  ∀ before after, cs = before ++ after → (∀ c ∈ after.head?, c = textMark) →
    trailingEscapes before % 2 = 0

theorem pairedEscapes_nil : PairedEscapes [] := by
  intro before after h _
  rw [(List.append_eq_nil_iff.1 h.symm).1]
  rfl

theorem pairedEscapes_plain_iff (hc : c ≠ escapeMark) :
    PairedEscapes (c :: cs) ↔ PairedEscapes cs := by
  have heven := trailingEscapes_append_mod (trailingEscapes_plain hc)
  constructor
  · intro h before after heq hafter
    rw [← heven]
    exact h (c :: before) after (by rw [heq]; rfl) hafter
  · intro h before after heq hafter
    cases before with
    | nil => rfl
    | cons b before =>
        obtain ⟨rfl, rfl⟩ := List.cons.inj heq
        exact (heven before).trans (h before after rfl hafter)

theorem pairedEscapes_taken_iff (hd : d ≠ textMark) :
    PairedEscapes (escapeMark :: d :: cs) ↔ PairedEscapes cs := by
  have heven := trailingEscapes_append_mod (trailingEscapes_taken d)
  constructor
  · intro h before after heq hafter
    rw [← heven]
    exact h (escapeMark :: d :: before) after (by rw [heq]; rfl) hafter
  · intro h before after heq hafter
    cases before with
    | nil => rfl
    | cons b before =>
        obtain ⟨rfl, htail⟩ := List.cons.inj heq
        cases before with
        | nil =>
            -- Between a backslash and what it takes there is neither a quote nor the end.
            obtain rfl : d :: cs = after := htail
            exact absurd (hafter d rfl) hd
        | cons b before =>
            obtain ⟨rfl, rfl⟩ := List.cons.inj htail
            exact (heven before).trans (h before after rfl hafter)

theorem not_pairedEscapes_lost (hcs : ∀ c ∈ cs.head?, c = textMark) :
    ¬ PairedEscapes (escapeMark :: cs) := fun h =>
  absurd (h [escapeMark] cs rfl hcs) (by decide)

instance decidablePairedEscapes : (cs : List Char) → Decidable (PairedEscapes cs)
  | [] => isTrue pairedEscapes_nil
  | [c] =>
    if hc : c = escapeMark then isFalse (hc ▸ not_pairedEscapes_lost fun _ h => nomatch h)
    else isTrue ((pairedEscapes_plain_iff hc).2 pairedEscapes_nil)
  | c :: d :: cs =>
    have := decidablePairedEscapes cs
    have := decidablePairedEscapes (d :: cs)
    if hc : c = escapeMark then
      if hd : d = textMark then
        isFalse (hc ▸ not_pairedEscapes_lost fun _ h => Option.some.inj h ▸ hd)
      else decidable_of_iff (PairedEscapes cs) (hc ▸ (pairedEscapes_taken_iff hd).symm)
    else decidable_of_iff _ (pairedEscapes_plain_iff hc).symm

theorem exists_readTextBody_closed_iff (h : rest.head? ≠ some textMark) (cs : List Char) :
    (∃ value, readTextBody (closed cs rest) = some (value, rest)) ↔ PairedEscapes cs := by
  have hmap {o : Option (List Char × List Char)} (ds : List Char) :
      (∃ value, (o.map fun p => (ds ++ p.1, p.2)) = some (value, rest)) ↔
        ∃ value, o = some (value, rest) := by
    cases o <;> simp [Prod.ext_iff]
  induction cs using escapes_induction with
  | nil => exact iff_of_true ⟨[], readTextBody_closed_nil h⟩ pairedEscapes_nil
  | plain c cs hc ih =>
      rw [readTextBody_closed_cons hc, pairedEscapes_plain_iff hc]
      exact (hmap [c]).trans ih
  | taken d cs hd ih =>
      rw [readTextBody_closed_taken hd, pairedEscapes_taken_iff hd]
      exact (hmap (escaped d)).trans ih
  | lost cs hcs =>
      refine iff_of_false ?_ (not_pairedEscapes_lost hcs)
      rintro ⟨value, hread⟩
      exact ne_of_readTextBody_lost hcs hread rfl

/-! ## Literals -/

theorem readText?_literal_text (s : String) (rest : List Char) :
    readText? ((literal (.text s)).toList ++ rest) =
      (readTextBody (closed s.toList rest)).map fun p => (.ofList p.1, p.2) := by
  rw [literal, String.toList_ofList, wrap, List.append_assoc, List.cons_append, readText?,
    if_pos rfl]
  rfl

theorem readText?_literal_text_eq_iff {s : String} :
    readText? ((literal (.text s)).toList ++ rest) = some (.ofList value, rest) ↔
      readTextBody (closed s.toList rest) = some (value, rest) := by
  rw [readText?_literal_text, Option.map_eq_some_iff]
  constructor
  · rintro ⟨⟨w, r⟩, hread, heq⟩
    obtain ⟨hw, hr⟩ := Prod.mk.inj heq
    rw [hread, ← String.ofList_injective hw, ← hr]
  · exact fun hread => ⟨_, hread, rfl⟩

/-- The literal of a text is read as that text, and as no more than that, exactly if each backslash
of the text stands before `%` or `_`. It is read up to its own closing mark, as whatever text,
exactly if before each quote and at the end the backslashes are even in number. -/
theorem readText?_literal_text_iff (s : String) {rest : List Char}
    (h : rest.head? ≠ some textMark) :
    (readText? ((literal (.text s)).toList ++ rest) = some (s, rest) ↔
      OnlyPatternEscapes s.toList) ∧
    ((∃ value, readText? ((literal (.text s)).toList ++ rest) = some (value, rest)) ↔
      PairedEscapes s.toList) := by
  constructor
  · rw [← readTextBody_closed_eq_iff h, ← readText?_literal_text_eq_iff, String.ofList_toList]
  · rw [← exists_readTextBody_closed_iff h]
    constructor
    · rintro ⟨value, hread⟩
      exact ⟨value.toList, readText?_literal_text_eq_iff.1 (by rwa [String.ofList_toList])⟩
    · rintro ⟨value, hread⟩
      exact ⟨.ofList value, readText?_literal_text_eq_iff.2 hread⟩

/-- Quotes and a pattern are read as they are; of two backslashes one is read. -/
theorem readText?_literal_rebate :
    ",\n".toList.head? ≠ some textMark ∧
      readText? ((literal (.text "it's 5\\% off")).toList ++ ",\n".toList) =
        some ("it's 5\\% off", ",\n".toList) ∧
      readText? ((literal (.text "it\\\\'s")).toList ++ ",\n".toList) ≠
        some ("it\\\\'s", ",\n".toList) ∧
      ∃ value, readText? ((literal (.text "it\\\\'s")).toList ++ ",\n".toList) =
        some (value, ",\n".toList) :=
  have hrest : ",\n".toList.head? ≠ some textMark := by decide
  have hrebate := readText?_literal_text_iff "it's 5\\% off" hrest
  have hdoubled := readText?_literal_text_iff "it\\\\'s" hrest
  ⟨hrest, hrebate.1.2 (by decide), mt hdoubled.1.1 (by decide), hdoubled.2.2 (by decide)⟩

/-- The literal of a path that ends in a backslash has no end of its own, and before another column
it goes on up to where that column's default begins. -/
theorem readText?_literal_path :
    readText? (literal (.text "C:\\")).toList = none ∧
      readText? ((literal (.text "C:\\")).toList ++ ",\n  `name` TEXT DEFAULT 'x'".toList) =
        some ("C:',\n  `name` TEXT DEFAULT ", "x'".toList) := by
  decide

end SchemaDdl.Sql
