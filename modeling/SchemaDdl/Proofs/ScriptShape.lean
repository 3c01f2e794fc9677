import SchemaDdl.Proofs.CompiledNames
import SchemaDdl.Proofs.StatementTexts

/-!
# What a script says and in which order

The statements of a script are told from its comments by their text alone, line
by line, and texts come from users: names, prefixes, default values with line
ends and dashes in them. Two facts make the test come out right. A statement
begins with a capital letter, so its first line is no comment whatever the
others are; and the title of a banner stays on its line, because the names that
a compilation knows are identifiers and the prefix has no line end. So what is
not a comment is `Schema.orders`, and what the database reads in it is
`Schema.commands`.

A script refers only to tables that it has created before. All tables are
created before the first constraint is added, and the constraint index refers
only to tables of the schema.
-/

namespace SchemaDdl

/-! ## Lines -/

namespace Text

theorem pieces_of_notMem {mark : Char} {cs : List Char} (h : mark ∉ cs) :
    pieces mark cs = [cs] := by
  induction cs with
  | nil => rfl
  | cons c r ih =>
      rw [List.mem_cons, not_or] at h
      rw [pieces, if_neg (Ne.symm h.1), ih h.2]

theorem pieces_cons {mark c : Char} (hc : c ≠ mark) (r : List Char) :
    ∃ p ps, pieces mark (c :: r) = (c :: p) :: ps := by
  rw [pieces, if_neg hc]
  cases pieces mark r with
  | nil => exact ⟨[], [], rfl⟩
  | cons p ps => exact ⟨p, ps, rfl⟩

theorem lines_of_notMem {c : Char} {r : List Char} (h : '\n' ∉ c :: r) :
    lines (c :: r) = [c :: r] := by
  rw [lines, pieces_of_notMem h]
  rfl

theorem dropCarriageReturn_cons {c : Char} (hc : c ≠ '\r') (r : List Char) :
    ∃ r', dropCarriageReturn (c :: r) = c :: r' := by
  rw [dropCarriageReturn]
  split
  · next hlast =>
      cases r with
      | nil => exact absurd (Option.some.inj hlast) hc
      | cons d r => exact ⟨_, rfl⟩
  · exact ⟨r, rfl⟩

/-- The first line of a text begins as the text does. -/
theorem lines_cons {c : Char} (hc : c ≠ '\n') (hc' : c ≠ '\r') (r : List Char) :
    ∃ line ls, lines (c :: r) = (c :: line) :: ls := by
  obtain ⟨p, ps, hps⟩ := pieces_cons hc r
  rw [lines, hps]
  cases ps with
  | nil => exact ⟨p, [], rfl⟩
  | cons p' ps =>
      obtain ⟨line, hline⟩ := dropCarriageReturn_cons hc' p
      rw [List.dropLast_cons_of_ne_nil (List.cons_ne_nil _ _), List.map_cons, hline]
      split
      · exact ⟨line, _, rfl⟩
      · exact ⟨line, _, rfl⟩
      · exact ⟨line, _, rfl⟩

end Text

/-! ## Comments -/

namespace Sql

theorem isComment_of_dashes {title : String} (h : '\n' ∉ title.toList) :
    isComment ("--" ++ title) = true := by
  have hline : '\n' ∉ '-' :: '-' :: title.toList := by simpa using h
  have htext : ("--" ++ title).toList = '-' :: '-' :: title.toList := by
    rw [String.toList_append]
    rfl
  rw [isComment, htext, Text.lines_of_notMem hline, List.all_cons, List.all_nil, Bool.and_true]
  rfl

/-- The text begins with a capital letter. -/
def IsWorded (x : String) : Prop := ∃ c, x.toList.head? = some c ∧ c.isUpper = true

theorem IsWorded.isComment_eq_false {x : String} (h : IsWorded x) : isComment x = false := by
  obtain ⟨c, hc, hupper⟩ := h
  obtain ⟨r, hx⟩ := List.head?_eq_some_iff.1 hc
  have hrange : 65 ≤ c.toNat ∧ c.toNat ≤ 90 := by
    have hval : 'A'.val ≤ c.val ∧ c.val ≤ 'Z'.val := of_decide_eq_true hupper
    exact ⟨UInt32.le_iff_toNat_le.1 hval.1, UInt32.le_iff_toNat_le.1 hval.2⟩
  have hne : ∀ d : Char, d.toNat < 65 → c ≠ d := by
    rintro d hd rfl
    omega
  have hblank : Text.isBlank c = false := by
    simp [Text.isBlank]
    omega
  obtain ⟨line, ls, hls⟩ := Text.lines_cons (hne '\n' (by decide)) (hne '\r' (by decide)) r
  have hdash : ('-' == c) = false := beq_eq_false_iff_ne.2 (hne '-' (by decide)).symm
  rw [isComment, hx, hls, List.all_cons, isCommentLine, Text.trimStart,
    List.dropWhile_cons_of_neg (by simp [hblank]), List.isPrefixOf, hdash]
  rfl

namespace Statement

/-- Whether the statement is a comment as data. -/
def isBanner : Statement → Bool
  | comment _ => true
  | _ => false

theorem isWorded_text {st : Statement} (h : st.isBanner = false) : IsWorded st.text := by
  cases st with
  | foreignKeyChecks on => exact ⟨'S', head?_checksText on, by decide⟩
  | comment line => cases h
  | dropTable table => exact ⟨'D', head?_dropTableText table, by decide⟩
  | createTable layout => exact ⟨'C', head?_createTableText _ _ _ _, by decide⟩
  | addConstraints table clauses =>
      exact ⟨'A', head?_addConstraintsText table clauses, by decide⟩
  | dropConstraints table names =>
      exact ⟨'A', head?_dropConstraintsText table names, by decide⟩

/-- The banner of a name without a line end is comments alone. -/
theorem isComment_text_banner {title : String} (h : '\n' ∉ title.toList) :
    ∀ st ∈ banner title, isComment st.text = true := by
  have hline : isComment "--" = true := by decide
  have htitle : isComment ("-- " ++ title) = true := by
    have hblank : '\n' ∉ (" " ++ title).toList := by simpa using h
    have hsplit : "-- " ++ title = "--" ++ (" " ++ title) := by
      rw [← String.append_assoc]
      rfl
    rw [hsplit]
    exact isComment_of_dashes hblank
  simp only [banner, List.forall_mem_cons]
  exact ⟨hline, htitle, hline, fun st hst => by cases hst⟩

/-- Whether the statement is sent to the database. -/
def isSent (st : Statement) : Bool := !isComment st.text

theorem isSent_of_not_banner {st : Statement} (h : st.isBanner = false) : st.isSent = true := by
  rw [isSent, (isWorded_text h).isComment_eq_false]
  rfl

/-- Of a banner and the statements below it the statements are sent. -/
theorem filter_isSent_banner {title : String} (htitle : '\n' ∉ title.toList) {l : List Statement}
    (hl : ∀ st ∈ l, st.isBanner = false) : (banner title ++ l).filter isSent = l := by
  have hbanner : (banner title).filter isSent = [] :=
    List.filter_eq_nil_iff.2 fun st hst => by simp [isSent, isComment_text_banner htitle st hst]
  have hsent : l.filter isSent = l :=
    List.filter_eq_self.2 fun st hst => isSent_of_not_banner (hl st hst)
  rw [List.filter_append, hbanner, hsent, List.nil_append]

/-- The tables that a statement refers to as tables that are there. -/
def referredTables : Statement → List String
  | addConstraints table clauses => table :: clauses.map ForeignKeyClause.referencedTable
  | dropConstraints table _ => [table]
  | _ => []

end Statement

end Sql

/-! ## The script -/

open Sql

namespace Schema

variable {s : Schema} {defaults globals : Settings} {tablePrefix : String}

def layoutOf (s : Schema) (globals : Settings) (tablePrefix : String) (e : String × Table) :
    TableLayout where
  name := Naming.physical tablePrefix e.1
  columns := e.2.columns
  indexes := indexesOf s.tables e.1 e.2
  primaryKey := s.keyColumns e.1
  settings := e.2.options.onto globals

/-- A table is dropped and created. -/
def tableOrders (s : Schema) (globals : Settings) (tablePrefix : String) (e : String × Table) :
    List Statement :=
  [.dropTable (Naming.physical tablePrefix e.1), .createTable (s.layoutOf globals tablePrefix e)]

/-- All constraints of a table are added at once. -/
def constraintOrder (tablePrefix : String) (e : String × OrderedMap Constraint) : Statement :=
  .addConstraints (Naming.physical tablePrefix e.1) (e.2.values.map (clauseOf tablePrefix))

/-- The script without its comments. -/
def orders (s : Schema) (defaults : Settings) (tablePrefix : String) : List Statement :=
  [.foreignKeyChecks false] ++
    s.tables.entries.flatMap (s.tableOrders (s.globals defaults) tablePrefix) ++
    (if (s.globals defaults).constraints then
      s.options.constraints.entries.map (constraintOrder tablePrefix)
    else []) ++
    [.foreignKeyChecks true]

/-- What the script is to make the database do, table by table and constraint by constraint, with
the prefix before the name of every table. -/
def commands (s : Schema) (defaults : Settings) (tablePrefix : String) : List Command :=
  [.setChecks false] ++
    s.tables.keys.flatMap (fun name =>
      [.drop (tablePrefix ++ name), .create (tablePrefix ++ name)]) ++
    (if (s.globals defaults).constraints then
      s.options.constraints.entries.map fun e =>
        .constrain (tablePrefix ++ e.1) (e.2.values.map fun c =>
          { name := c.name
            column := c.column
            referencedTable := tablePrefix ++ c.referencedTable
            referencedColumn := c.referencedColumn
            onDelete := c.onDelete
            onUpdate := c.onUpdate })
    else []) ++
    [.setChecks true]

theorem map_command?_orders (s : Schema) (defaults : Settings) (tablePrefix : String) :
    (s.orders defaults tablePrefix).map Statement.command? =
      (s.commands defaults tablePrefix).map some := by
  have htables : (s.tables.entries.flatMap (s.tableOrders (s.globals defaults) tablePrefix)).map
      Statement.command? = (s.tables.keys.flatMap fun name =>
        [Command.drop (tablePrefix ++ name), .create (tablePrefix ++ name)]).map some := by
    rw [OrderedMap.keys, List.flatMap_map, List.map_flatMap, List.map_flatMap]
    rfl
  simp only [orders, commands, List.map_append, htables]
  cases (s.globals defaults).constraints with
  | false => rfl
  | true =>
      simp only [if_true, List.map_map]
      rfl

theorem tableStatements_of_entry {e : String × Table} (he : e ∈ s.tables.entries) :
    s.tableStatements globals tablePrefix e.1 =
      Statement.tableBanner (Naming.physical tablePrefix e.1) ++
        s.tableOrders globals tablePrefix e := by
  rw [tableStatements, tableLayout?, OrderedMap.mem_entries_iff.1 he]
  rfl

theorem flatMap_tableStatements (s : Schema) (globals : Settings) (tablePrefix : String) :
    s.tables.keys.flatMap (s.tableStatements globals tablePrefix) =
      s.tables.entries.flatMap fun e =>
        Statement.tableBanner (Naming.physical tablePrefix e.1) ++
          s.tableOrders globals tablePrefix e := by
  rw [OrderedMap.keys, List.flatMap_map]
  exact List.flatMap_congr fun e he => tableStatements_of_entry he

theorem ReferentiallyClosed.constrained_eq (h : s.ReferentiallyClosed) :
    s.options.constraints.constrained = s.options.constraints.entries := by
  refine List.filter_eq_self.2 fun e he => ?_
  rw [h.constrained e.1 e.2 (OrderedMap.mem_entries_iff.1 he)]
  rfl

theorem ReferentiallyClosed.additions_eq (h : s.ReferentiallyClosed) :
    s.additions defaults tablePrefix =
      if (s.globals defaults).constraints then
        s.options.constraints.entries.flatMap fun e =>
          Statement.constraintBanner (Naming.physical tablePrefix e.1) ++
            [constraintOrder tablePrefix e]
      else [] := by
  rw [additions, ConstraintIndex.additions, h.constrained_eq]
  rfl

/-- Only tables of the schema have constraints. -/
theorem ReferentiallyClosed.mem_tables_of_constrained (h : s.ReferentiallyClosed)
    {e : String × OrderedMap Constraint} (he : e ∈ s.options.constraints.entries) :
    e.1 ∈ s.tables.keys := by
  have hget := OrderedMap.mem_entries_iff.1 he
  obtain ⟨column, c, hc⟩ := OrderedMap.isEmpty_eq_false_iff.1 (h.constrained e.1 e.2 hget)
  obtain ⟨-, t, ht, -⟩ := h.constraintColumns e.1 e.2 column c hget hc
  exact OrderedMap.mem_keys_of_get? ht

/-- Only to tables of the schema constraints refer. -/
theorem ReferentiallyClosed.mem_tables_of_referred (h : s.ReferentiallyClosed)
    {e : String × OrderedMap Constraint} (he : e ∈ s.options.constraints.entries) {c : Constraint}
    (hc : c ∈ e.2.values) : c.referencedTable ∈ s.tables.keys := by
  obtain ⟨⟨column, c⟩, hentry, rfl⟩ := List.mem_map.1 hc
  obtain ⟨t, -, ht, -⟩ := h.constraintTargets e.1 e.2 column c (OrderedMap.mem_entries_iff.1 he)
    (OrderedMap.mem_entries_iff.1 hentry)
  exact OrderedMap.mem_keys_of_get? ht

/-- Of a script whose names have no line end the comments can be told by their text. -/
theorem filter_isSent_script (hclosed : s.ReferentiallyClosed)
    (hnames : ∀ name ∈ s.tables.keys, '\n' ∉ (Naming.physical tablePrefix name).toList) :
    (s.script defaults tablePrefix).filter Statement.isSent = s.orders defaults tablePrefix := by
  have htable : ∀ e ∈ s.tables.entries,
      (Statement.tableBanner (Naming.physical tablePrefix e.1) ++
        s.tableOrders (s.globals defaults) tablePrefix e).filter Statement.isSent =
          s.tableOrders (s.globals defaults) tablePrefix e := by
    intro e he
    refine Statement.filter_isSent_banner ?_ fun st hst => ?_
    · simpa using hnames e.1 (List.mem_map_of_mem he)
    · rcases List.mem_cons.1 hst with rfl | hst
      · rfl
      · rw [List.mem_singleton.1 hst]
        rfl
  have hconstraint : ∀ e ∈ s.options.constraints.entries,
      (Statement.constraintBanner (Naming.physical tablePrefix e.1) ++
        [constraintOrder tablePrefix e]).filter Statement.isSent =
          [constraintOrder tablePrefix e] := by
    intro e he
    refine Statement.filter_isSent_banner ?_ fun st hst => ?_
    · simpa using hnames e.1 (hclosed.mem_tables_of_constrained he)
    · rw [List.mem_singleton.1 hst]
      rfl
  have hchecks : ∀ on, [Statement.foreignKeyChecks on].filter Statement.isSent =
      [.foreignKeyChecks on] := fun on =>
    List.filter_cons_of_pos (Statement.isSent_of_not_banner rfl)
  rw [script, orders, flatMap_tableStatements, hclosed.additions_eq, List.filter_append,
    List.filter_append, List.filter_append, List.filter_flatMap, List.flatMap_congr htable, hchecks,
    hchecks]
  cases (s.globals defaults).constraints with
  | false => rfl
  | true =>
      rw [if_pos rfl, if_pos rfl, List.filter_flatMap, List.flatMap_congr hconstraint,
        ← List.map_eq_flatMap]

/-! ## What is read in a script -/

theorem isLegible_of_banner {title : String} {st : Statement} (h : st ∈ Statement.banner title) :
    st.IsLegible := by
  have hbare : (Statement.comment "--").IsLegible := by
    show "--".toList.head? = some '-'
    decide
  simp only [Statement.banner, List.mem_cons, List.not_mem_nil, or_false] at h
  obtain rfl | rfl | rfl := h
  · exact hbare
  · exact head?_append (x := "-- ") (by decide) title
  · exact hbare

/-- Every statement of the script is read as what it is. -/
theorem ReferentiallyClosed.isLegible_of_mem_script (hclosed : s.ReferentiallyClosed)
    {st : Statement} (h : st ∈ s.script defaults tablePrefix) : st.IsLegible := by
  rw [script, flatMap_tableStatements, hclosed.additions_eq] at h
  simp only [List.mem_append, List.mem_singleton, List.mem_flatMap] at h
  obtain ((rfl | ⟨e, -, hbanner | hst⟩) | hst) | rfl := h
  · trivial
  · exact isLegible_of_banner hbanner
  · simp only [tableOrders, List.mem_cons, List.not_mem_nil, or_false] at hst
    obtain rfl | rfl := hst
    · trivial
    · trivial
  · split at hst
    · obtain ⟨e, he, hst⟩ := List.mem_flatMap.1 hst
      rcases List.mem_append.1 hst with hbanner | hst
      · exact isLegible_of_banner hbanner
      · rw [List.mem_singleton.1 hst]
        rw [← hclosed.constrained_eq] at he
        exact mt List.map_eq_nil_iff.1 (ConstraintIndex.values_ne_nil he)
    · cases hst
  · trivial

/-- Of a script whose names have no line end every statement that is sent is read, and what is read
is what `commands` lists. -/
theorem ReferentiallyClosed.map_readCommand?_orders (hclosed : s.ReferentiallyClosed)
    (hnames : ∀ name ∈ s.tables.keys, '\n' ∉ (Naming.physical tablePrefix name).toList) :
    (s.orders defaults tablePrefix).map (fun st => readCommand? st.text) =
      (s.commands defaults tablePrefix).map some := by
  rw [← map_command?_orders]
  refine List.map_congr_left fun st hst => Statement.readCommand?_text ?_
  rw [← filter_isSent_script hclosed hnames] at hst
  exact hclosed.isLegible_of_mem_script (List.mem_of_mem_filter hst)

/-! ## What is created and what is referred to -/

/-- The first part of a script, in which all tables are created. -/
def opening (s : Schema) (globals : Settings) (tablePrefix : String) : List Statement :=
  [.foreignKeyChecks false] ++ s.tables.keys.flatMap (s.tableStatements globals tablePrefix)

theorem referredTables_of_opening {st : Statement} (h : st ∈ s.opening globals tablePrefix) :
    st.referredTables = [] := by
  rw [opening, flatMap_tableStatements, List.mem_append] at h
  rcases h with h | h
  · rw [List.mem_singleton.1 h]
    rfl
  · obtain ⟨e, -, h⟩ := List.mem_flatMap.1 h
    simp only [Statement.tableBanner, Statement.banner, tableOrders, List.mem_append, List.mem_cons,
      List.not_mem_nil, or_false] at h
    obtain (rfl | rfl | rfl) | rfl | rfl := h
    · rfl
    · rfl
    · rfl
    · rfl
    · rfl

theorem created_of_opening {name : String} (h : name ∈ s.tables.keys) :
    ∃ layout, .createTable layout ∈ s.opening globals tablePrefix ∧
      layout.name = Naming.physical tablePrefix name := by
  obtain ⟨e, he, rfl⟩ := List.mem_map.1 h
  refine ⟨s.layoutOf globals tablePrefix e, ?_, rfl⟩
  rw [opening, flatMap_tableStatements, List.mem_append, List.mem_flatMap]
  exact .inr ⟨e, he, List.mem_append_right _ (List.mem_cons_of_mem _ List.mem_cons_self)⟩

/-- Behind the opening only tables of the schema are referred to. -/
theorem ReferentiallyClosed.mem_tables_of_additions (hclosed : s.ReferentiallyClosed)
    {st : Statement} (h : st ∈ s.additions defaults tablePrefix) {table : String}
    (htable : table ∈ st.referredTables) :
    ∃ name ∈ s.tables.keys, table = Naming.physical tablePrefix name := by
  rw [hclosed.additions_eq] at h
  split at h
  · obtain ⟨e, he, h⟩ := List.mem_flatMap.1 h
    rcases List.mem_append.1 h with h | h
    · simp only [Statement.constraintBanner, Statement.banner, List.mem_cons, List.not_mem_nil,
        or_false] at h
      obtain rfl | rfl | rfl := h
      · cases htable
      · cases htable
      · cases htable
    · rw [List.mem_singleton.1 h, constraintOrder, Statement.referredTables, List.map_map,
        List.mem_cons] at htable
      rcases htable with rfl | htable
      · exact ⟨e.1, hclosed.mem_tables_of_constrained he, rfl⟩
      · obtain ⟨c, hc, rfl⟩ := List.mem_map.1 htable
        exact ⟨c.referencedTable, hclosed.mem_tables_of_referred he hc, rfl⟩
  · cases h

/-- What a statement refers to was created before it. -/
theorem ReferentiallyClosed.created_before (hclosed : s.ReferentiallyClosed)
    {before after : List Statement} {st : Statement}
    (h : s.script defaults tablePrefix = before ++ st :: after) {table : String}
    (htable : table ∈ st.referredTables) :
    ∃ layout, .createTable layout ∈ before ∧ layout.name = table := by
  have hscript : s.opening (s.globals defaults) tablePrefix ++
      (s.additions defaults tablePrefix ++ [.foreignKeyChecks true]) = before ++ st :: after := by
    rw [← h, script, opening]
    simp only [List.append_assoc]
  have hst : st ∉ s.opening (s.globals defaults) tablePrefix := by
    intro hmem
    rw [referredTables_of_opening hmem] at htable
    cases htable
  -- The statement is behind the opening, so the opening is before the statement.
  obtain ⟨rest, rfl, hrest⟩ : ∃ rest, before = s.opening (s.globals defaults) tablePrefix ++ rest ∧
      s.additions defaults tablePrefix ++ [.foreignKeyChecks true] = rest ++ st :: after := by
    rcases List.append_eq_append_iff.1 hscript with h | ⟨rest, hopening, h⟩
    · exact h
    · cases rest with
      | nil => exact ⟨[], by rw [hopening, List.append_nil, List.append_nil], h.symm⟩
      | cons first rest =>
          obtain ⟨rfl, -⟩ := List.cons.inj h
          exact absurd (hopening ▸ List.mem_append_right _ List.mem_cons_self) hst
  have hmem : st ∈ s.additions defaults tablePrefix ++ [.foreignKeyChecks true] :=
    hrest ▸ List.mem_append_right _ List.mem_cons_self
  rcases List.mem_append.1 hmem with hmem | hmem
  · obtain ⟨name, hname, rfl⟩ := hclosed.mem_tables_of_additions hmem htable
    obtain ⟨layout, hlayout, heq⟩ := created_of_opening hname
    exact ⟨layout, List.mem_append_left _ hlayout, heq⟩
  · rw [List.mem_singleton.1 hmem] at htable
    cases htable

/-- A table that is altered, or that a constraint refers to, is read in the text of an earlier
statement as one that is created. -/
theorem ReferentiallyClosed.readCommand?_before (hclosed : s.ReferentiallyClosed)
    {before after : List String} {x : String}
    (h : (s.script defaults tablePrefix).map Statement.text = before ++ x :: after)
    {table : String} {clauses : List ForeignKeyClause}
    (hread : readCommand? x = some (.constrain table clauses)) {name : String}
    (hname : name ∈ table :: clauses.map ForeignKeyClause.referencedTable) :
    ∃ y ∈ before, readCommand? y = some (.create name) := by
  obtain ⟨first, rest, hscript, rfl, hrest⟩ := List.map_eq_append_iff.1 h
  obtain ⟨st, last, rfl, rfl, rfl⟩ := List.map_eq_cons_iff.1 hrest
  have hmem : ∀ st' ∈ first ++ st :: last, st' ∈ s.script defaults tablePrefix := by
    intro st' hst'
    rwa [hscript]
  have hst := hclosed.isLegible_of_mem_script (hmem st (List.mem_append_right _ List.mem_cons_self))
  rw [Statement.readCommand?_text hst] at hread
  -- Only a statement that adds constraints is read as one.
  have hreferred : name ∈ st.referredTables := by
    cases st with
    | addConstraints table' clauses' =>
        obtain ⟨rfl, rfl⟩ := Command.constrain.inj (Option.some.inj hread)
        exact hname
    | _ => cases hread
  obtain ⟨layout, hlayout, rfl⟩ := hclosed.created_before hscript hreferred
  have hcreate := hclosed.isLegible_of_mem_script (hmem _ (List.mem_append_left _ hlayout))
  exact ⟨_, List.mem_map_of_mem hlayout, Statement.readCommand?_text hcreate⟩

end Schema

/-- A validated schema compiles to a script that says, comments aside, what `orders` lists. Its
texts are read as the commands that the schema stands for, and a table that one of them alters or
refers to is created by an earlier one. -/
theorem compile_script_orders (c : Compiler) {s s' : Schema} (hvalid : s.validate = .ok s')
    (htables : s'.tables.isEmpty = false) (hraw : s'.isCompiled = false)
    (hplain : '\n' ∉ c.tablePrefix.toList) :
    ∃ r, c.compile s' = .ok r ∧
      (r.statements.filter fun x => !isComment x) =
        (r.schema.orders c.defaults c.tablePrefix).map Statement.text ∧
      (r.statements.filter fun x => !isComment x).map readCommand? =
        (r.schema.commands c.defaults c.tablePrefix).map some ∧
      ∀ before x after, r.statements = before ++ x :: after →
        ∀ table clauses, readCommand? x = some (.constrain table clauses) →
        ∀ name ∈ table :: clauses.map ForeignKeyClause.referencedTable,
          ∃ y ∈ before, readCommand? y = some (.create name) := by
  obtain ⟨r, hr, hschema, -⟩ := c.compile_of_uncompiled htables hraw
  have hclosed : r.schema.ReferentiallyClosed :=
    hschema ▸ s'.referentiallyClosed_resolve c.defaults c.names
  have hscript := Compiler.script_of_compile hr
  have hnames : ∀ name ∈ r.schema.tables.keys,
      '\n' ∉ (Naming.physical c.tablePrefix name).toList := by
    intro name hname
    rw [hschema] at hname
    rw [Naming.physical, String.toList_append, List.mem_append, not_or]
    exact ⟨hplain, (Schema.isSpelled_of_mem_resolve (Schema.wellNamed_of_validate hvalid)
      hname).notMem (by decide)⟩
  have hsent : (r.statements.filter fun x => !isComment x) =
      (r.schema.orders c.defaults c.tablePrefix).map Statement.text := by
    rw [Compilation.statements, List.filter_map, hscript]
    exact congrArg _ (Schema.filter_isSent_script hclosed hnames)
  refine ⟨r, hr, hsent, ?_, ?_⟩
  · rw [hsent, List.map_map]
    exact hclosed.map_readCommand?_orders hnames
  · intro before x after h table clauses hread name hname
    rw [Compilation.statements, hscript] at h
    exact hclosed.readCommand?_before h hread hname

/-- A default value of several lines, one of which looks like a comment. -/
def remarks : Schema :=
  ({} : Schema)
    |>.addTable "user" ((({} : Table).withField "motto"
      { typeName := "varchar", defaultValue := some (.text "\n-- none\n--") }).hasMany "post" {})
    |>.addTable "post" (({} : Table).belongsTo "user")

theorem compile_remarks_script_orders :
    remarks.validate = .ok remarks ∧ remarks.tables.isEmpty = false ∧ remarks.isCompiled = false ∧
      '\n' ∉ "my_".toList ∧
      ∃ r, ({ tablePrefix := "my_", names := .counting } : Compiler).compile remarks = .ok r ∧
        (r.statements.filter fun x => !isComment x).map readCommand? =
          [some (.setChecks false), some (.drop "my_user"), some (.create "my_user"),
            some (.drop "my_post"), some (.create "my_post"),
            some (.constrain "my_post" [⟨"FK_000000000000001", "user_id", "my_user", "id",
              .restrict, .noAction⟩]), some (.setChecks true)] := by
  have hvalid : remarks.validate = .ok remarks := rfl
  obtain ⟨r, hr, -, hread, -⟩ :=
    compile_script_orders { tablePrefix := "my_", names := .counting } hvalid (by decide)
      (by decide) (by decide)
  refine ⟨hvalid, by decide, by decide, by decide, r, hr, hread.trans ?_⟩
  obtain rfl := Except.ok.inj hr
  decide

end SchemaDdl
