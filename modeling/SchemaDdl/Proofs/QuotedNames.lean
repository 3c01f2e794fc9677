import SchemaDdl.Sql.Column

/-!
# Quoted names are read back

Inside a quoted name marks come in pairs, and the first that is left without a
partner ends it, so where a name ends cannot be told without looking one
character ahead. What stands behind a name must not begin with the mark: two
quoted names without anything between them are read as one. Under this condition
reading is exact in both directions. `readName?` finds a name and a rest if and
only if the text is that name in quotes with that rest behind it, and a name
that is made of marks is no exception.

In a list of names a comma stands behind each but the last, and a comma is no
mark. So a list is read back as well, and as its names are read one by one, a
comma or a line break inside a name is a part of the name.
-/

namespace SchemaDdl

/-! ## Text between marks -/

namespace Text.Quoted

variable {q : Char} {s t r : List Char}

theorem readBody_cons_of_ne {c : Char} (h : c ≠ q) (t : List Char) :
    readBody q (c :: t) = (readBody q t).map fun p => (c :: p.1, p.2) := by
  cases t with
  | nil => exact if_neg h
  | cons d r => rw [readBody, if_neg h]

theorem readBody_doubled (q : Char) (t : List Char) :
    readBody q (q :: q :: t) = (readBody q t).map fun p => (q :: p.1, p.2) := by
  rw [readBody, if_pos rfl, if_pos rfl]

/-- A mark that is not doubled ends the text. -/
theorem readBody_closed (h : r.head? ≠ some q) : readBody q (q :: r) = some ([], r) := by
  cases r with
  | nil => rw [readBody, if_pos rfl]
  | cons d r =>
      have hd : d ≠ q := fun hd => h (congrArg some hd)
      rw [readBody, if_pos rfl, if_neg hd]

theorem readBody_encode (h : r.head? ≠ some q) (s : List Char) :
    readBody q (encode q s ++ q :: r) = some (s, r) := by
  induction s with
  | nil => exact readBody_closed h
  | cons c s ih =>
      rw [encode]
      split
      · next hc =>
          rw [List.cons_append, List.cons_append, readBody_doubled, ih, hc, Option.map_some]
      · next hc => rw [List.cons_append, readBody_cons_of_ne hc, ih, Option.map_some]

theorem eq_encode_of_readBody (h : readBody q t = some (s, r)) :
    t = encode q s ++ q :: r ∧ r.head? ≠ some q := by
  fun_induction readBody q t generalizing s with
  | case1 => cases h
  | case2 =>
      cases h
      exact ⟨rfl, (Option.some_ne_none q).symm⟩
  | case3 c hc => cases h
  | case4 t ih =>
      obtain ⟨⟨s', r'⟩, hread, heq⟩ := Option.map_eq_some_iff.1 h
      cases heq
      obtain ⟨rfl, hr⟩ := ih hread
      exact ⟨by rw [encode, if_pos rfl]; rfl, hr⟩
  | case5 d t hd =>
      cases h
      exact ⟨rfl, fun h => hd (Option.some.inj h)⟩
  | case6 c d t hc ih =>
      obtain ⟨⟨s', r'⟩, hread, heq⟩ := Option.map_eq_some_iff.1 h
      cases heq
      obtain ⟨htext, hr⟩ := ih hread
      exact ⟨by rw [htext, encode, if_neg hc]; rfl, hr⟩

/-- Reading and writing agree on which text is quoted and on where it ends. -/
theorem read?_eq_some_iff : read? q t = some (s, r) ↔ t = wrap q s ++ r ∧ r.head? ≠ some q := by
  constructor
  · intro h
    cases t with
    | nil => cases h
    | cons c t =>
        rw [read?] at h
        split at h
        · next hc =>
            obtain ⟨rfl, hr⟩ := eq_encode_of_readBody h
            exact ⟨by rw [hc, wrap, List.append_assoc]; rfl, hr⟩
        · cases h
  · rintro ⟨rfl, hr⟩
    rw [wrap, List.append_assoc, List.cons_append, read?, if_pos rfl]
    exact readBody_encode hr s

theorem length_of_read? (h : read? q t = some (s, r)) : r.length < t.length := by
  obtain ⟨rfl, -⟩ := read?_eq_some_iff.1 h
  rw [List.length_append, wrap, List.length_append, List.length_singleton]
  omega

end Text.Quoted

/-! ## Names -/

namespace Sql

variable {name : String} {names : List String} {text rest : List Char}

theorem toList_quoteName (name : String) :
    (quoteName name).toList = Text.Quoted.wrap nameMark name.toList :=
  String.toList_ofList

theorem quoteNames_singleton (name : String) : quoteNames [name] = quoteName name :=
  String.intercalate_singleton

theorem toList_quoteNames_cons (h : names ≠ []) (name : String) :
    (quoteNames (name :: names)).toList =
      (quoteName name).toList ++ ',' :: (quoteNames names).toList := by
  have hcons : quoteNames (name :: names) = quoteName name ++ "," ++ quoteNames names :=
    String.intercalate_cons_of_ne_nil (mt List.map_eq_nil_iff.1 h)
  rw [hcons, String.toList_append, String.toList_append, List.append_assoc]
  rfl

/-- The quoted name that the text begins with, and what stands behind it. -/
def readName? (text : List Char) : Option (String × List Char) :=
  (Text.Quoted.read? nameMark text).map fun p => (.ofList p.1, p.2)

theorem readName?_eq_some_iff :
    readName? text = some (name, rest) ↔
      text = (quoteName name).toList ++ rest ∧ rest.head? ≠ some nameMark := by
  rw [toList_quoteName, ← Text.Quoted.read?_eq_some_iff, readName?, Option.map_eq_some_iff]
  constructor
  · rintro ⟨⟨s, r⟩, hread, heq⟩
    cases heq
    rwa [String.toList_ofList]
  · exact fun hread => ⟨_, hread, by rw [String.ofList_toList]⟩

/-- A name that is one mark, before the comma of a list. -/
example : readName? "\x60\x60\x60\x60,".toList = some ("\x60", [',']) := by decide

theorem length_of_readName? (h : readName? text = some (name, rest)) :
    rest.length < text.length := by
  obtain ⟨⟨s, r⟩, hread, heq⟩ := Option.map_eq_some_iff.1 h
  cases heq
  exact Text.Quoted.length_of_read? hread

/-- The quoted names that the text begins with, as far as commas go on, and what stands behind
them. -/
def readNames? (text : List Char) : Option (List String × List Char) :=
  match _ : readName? text with
  | none => none
  | some (name, ',' :: rest) => (readNames? rest).map fun p => (name :: p.1, p.2)
  | some (name, rest) => some ([name], rest)
termination_by text.length
decreasing_by
  have hlength := length_of_readName? (by assumption)
  rw [List.length_cons] at hlength
  omega

theorem readNames?_of_comma (h : readName? text = some (name, ',' :: rest)) :
    readNames? text = (readNames? rest).map fun p => (name :: p.1, p.2) := by
  rw [readNames?]
  split
  · next hnone => cases hnone.symm.trans h
  · next hsome =>
      cases hsome.symm.trans h
      rfl
  · next hother hsome =>
      cases hsome.symm.trans h
      exact absurd rfl (hother _)

theorem readNames?_of_end (h : readName? text = some (name, rest)) (hrest : rest.head? ≠ some ',') :
    readNames? text = some ([name], rest) := by
  rw [readNames?]
  split
  · next hnone => cases hnone.symm.trans h
  · next hsome =>
      cases hsome.symm.trans h
      exact absurd rfl hrest
  · next hsome =>
      cases hsome.symm.trans h
      rfl

theorem readNames?_quoteNames (hmark : rest.head? ≠ some nameMark)
    (hcomma : rest.head? ≠ some ',') (hnames : names ≠ []) :
    readNames? ((quoteNames names).toList ++ rest) = some (names, rest) := by
  induction names with
  | nil => exact absurd rfl hnames
  | cons name names ih =>
      by_cases hlast : names = []
      · -- What stands behind the last name goes on neither with the name nor with the list.
        rw [hlast, quoteNames_singleton]
        exact readNames?_of_end (readName?_eq_some_iff.2 ⟨rfl, hmark⟩) hcomma
      · -- The comma is not the mark, so the name ends before it.
        have hname : readName? ((quoteNames (name :: names)).toList ++ rest) =
            some (name, ',' :: ((quoteNames names).toList ++ rest)) := by
          rw [toList_quoteNames_cons hlast, List.append_assoc, List.cons_append]
          have hcut : ',' ≠ nameMark := by decide
          exact readName?_eq_some_iff.2 ⟨rfl, fun h => hcut (Option.some.inj h)⟩
        rw [readNames?_of_comma hname, ih hlast, Option.map_some]

theorem eq_quoteNames_of_readNames? (h : readNames? text = some (names, rest)) :
    (text = (quoteNames names).toList ++ rest ∧ names ≠ []) ∧
      rest.head? ≠ some nameMark ∧ rest.head? ≠ some ',' := by
  fun_induction readNames? text generalizing names with
  | case1 text hnone => cases h
  | case2 text name more hname ih =>
      obtain ⟨⟨names', r⟩, hread, heq⟩ := Option.map_eq_some_iff.1 h
      cases heq
      obtain ⟨⟨hmore, hnames⟩, hrest⟩ := ih hread
      refine ⟨⟨?_, List.cons_ne_nil _ _⟩, hrest⟩
      rw [(readName?_eq_some_iff.1 hname).1, hmore, toList_quoteNames_cons hnames,
        List.append_assoc, List.cons_append]
  | case3 text name rest hother hname =>
      cases h
      obtain ⟨htext, hmark⟩ := readName?_eq_some_iff.1 hname
      refine ⟨⟨by rw [htext, quoteNames_singleton], List.cons_ne_nil _ _⟩, hmark, fun hcomma => ?_⟩
      obtain ⟨more, rfl⟩ := List.head?_eq_some_iff.1 hcomma
      exact hother more rfl

/-- Reading and writing agree on which text is a list of names and on where it ends. -/
theorem readNames?_eq_some_iff :
    readNames? text = some (names, rest) ↔
      (text = (quoteNames names).toList ++ rest ∧ names ≠ []) ∧
        rest.head? ≠ some nameMark ∧ rest.head? ≠ some ',' := by
  refine ⟨eq_quoteNames_of_readNames?, ?_⟩
  rintro ⟨⟨rfl, hnames⟩, hmark, hcomma⟩
  exact readNames?_quoteNames hmark hcomma hnames

/-! ## One text for one name -/

theorem quoteName_injective : Function.Injective quoteName := by
  have hinverse : Function.LeftInverse
      (fun text : String => ((readName? text.toList).map Prod.fst).getD "") quoteName := by
    intro name
    have hread : readName? (quoteName name).toList = some (name, []) :=
      readName?_eq_some_iff.2 ⟨(List.append_nil _).symm, (Option.some_ne_none _).symm⟩
    show ((readName? (quoteName name).toList).map Prod.fst).getD "" = name
    rw [hread]
    rfl
  exact hinverse.injective

theorem quoteNames_injective : Function.Injective quoteNames := by
  have hinverse : Function.LeftInverse
      (fun text : String => ((readNames? text.toList).map Prod.fst).getD []) quoteNames := by
    intro names
    show ((readNames? (quoteNames names).toList).map Prod.fst).getD [] = names
    by_cases hnames : names = []
    · rw [hnames, readNames?]
      rfl
    · have hread : readNames? (quoteNames names).toList = some (names, []) :=
        readNames?_eq_some_iff.2 ⟨⟨(List.append_nil _).symm, hnames⟩,
          (Option.some_ne_none _).symm, (Option.some_ne_none _).symm⟩
      rw [hread]
      rfl
  exact hinverse.injective

/-- A name in quotes is read as that name, a list of names as that list, and both as far as they
were written; so two names never have one text, nor have two lists. -/
theorem read_quoted :
    (∀ text name rest, readName? text = some (name, rest) ↔
      text = (quoteName name).toList ++ rest ∧ rest.head? ≠ some nameMark) ∧
    (∀ text names rest, readNames? text = some (names, rest) ↔
      (text = (quoteNames names).toList ++ rest ∧ names ≠ []) ∧
        rest.head? ≠ some nameMark ∧ rest.head? ≠ some ',') ∧
    Function.Injective quoteName ∧ Function.Injective quoteNames :=
  ⟨fun _ _ _ => readName?_eq_some_iff, fun _ _ _ => readNames?_eq_some_iff, quoteName_injective,
    quoteNames_injective⟩

end Sql

end SchemaDdl
