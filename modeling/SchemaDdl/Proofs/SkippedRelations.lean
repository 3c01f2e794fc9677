import SchemaDdl.Proofs.PrunedRelations
import SchemaDdl.Proofs.ScriptShape

/-!
# What a skipped relation leaves behind

The resolved schema does not show a relation that was skipped, but the script
does. The script writes an index for every column that a foreign key of the
table is named after, and it does not ask whether that foreign key was skipped.
Where the table has a column of this name for another reason, the column is
indexed.

The indexes of a table stand in two groups, first the columns of its foreign
keys and then the other unique columns, each group in the order of the columns.
A column to which foreign keys only stray (`Schema.Strays`) is moved into the
first group. The move is invisible exactly if the column is unique, so that it
had an index before, and if the index stays at its place, behind all columns
that are related and in front of all others that are unique (`Schema.Conceals`).
When two groups read the same in one as in the other division is a matter of
which elements stand before which (`filter_append_congr_iff`).

In a table that is marked as a join table every column is indexed, and there is
nothing to be seen. Apart from indexes the script is the same in any case.
-/

namespace SchemaDdl

open Sql

/-! ## Lists in two groups -/

section

variable {α β : Type} {l : List α}

theorem flatMap_eq_flatMap_iff {f g : α → List β} (hlength : ∀ x ∈ l, (f x).length = (g x).length) :
    l.flatMap f = l.flatMap g ↔ ∀ x ∈ l, f x = g x := by
  refine ⟨fun h => ?_, List.flatMap_congr⟩
  induction l with
  | nil => exact fun x hx => by cases hx
  | cons x r ih =>
      rw [List.flatMap_cons, List.flatMap_cons] at h
      obtain ⟨hx, hr⟩ := List.append_inj h (hlength x List.mem_cons_self)
      exact List.forall_mem_cons.2 ⟨hx, ih (fun y hy => hlength y (List.mem_cons_of_mem _ hy)) hr⟩

/-- The elements of two kinds stand in this order exactly if none of the second kind stands before
one of the first. -/
theorem filter_or_eq_append_iff {a b : α → Bool} (hab : ∀ x, a x = true → b x = false) :
    l.filter (fun x => a x || b x) = l.filter a ++ l.filter b ↔
      l.Pairwise fun x y => ¬ (b x = true ∧ a y = true) := by
  induction l with
  | nil => simp
  | cons x r ih =>
      rw [List.pairwise_cons, ← ih]
      cases ha : a x with
      | true => simp [ha, hab x ha]
      | false =>
          cases hb : b x with
          | false => simp [ha, hb]
          | true =>
              have hleft : (x :: r).filter (fun x => a x || b x) =
                  x :: r.filter fun x => a x || b x := List.filter_cons_of_pos (by simp [hb])
              rw [hleft, List.filter_cons_of_neg (by simp [ha]), List.filter_cons_of_pos hb]
              -- The first element is of the second kind, so there may be none of the first.
              constructor
              · intro h
                cases hr : r.filter a with
                | nil =>
                    rw [hr, List.nil_append] at h
                    exact ⟨fun y hy hxy => List.filter_eq_nil_iff.1 hr y hy hxy.2,
                      (List.cons.inj h).2⟩
                | cons y r' =>
                    rw [hr] at h
                    have hy : a y = true := List.of_mem_filter (hr ▸ List.mem_cons_self)
                    rw [← (List.cons.inj h).1, ha] at hy
                    cases hy
              · rintro ⟨hnone, hrest⟩
                have hempty : r.filter a = [] :=
                  List.filter_eq_nil_iff.2 fun y hy hay => hnone y hy ⟨rfl, hay⟩
                rw [hempty, List.nil_append, hrest, hempty, List.nil_append]

/-- Three kinds of elements, of which the second is counted to the first or to the third. -/
theorem filter_append_filter_iff {a b c : α → Bool} (hab : ∀ x, a x = true → b x = false)
    (hac : ∀ x, a x = true → c x = false) (hbc : ∀ x, b x = true → c x = false) :
    l.filter (fun x => a x || b x) ++ l.filter c = l.filter a ++ l.filter (fun x => b x || c x) ↔
      (l.Pairwise fun x y => ¬ (b x = true ∧ a y = true)) ∧
        l.Pairwise fun x y => ¬ (c x = true ∧ b y = true) := by
  rw [← filter_or_eq_append_iff hab, ← filter_or_eq_append_iff hbc]
  constructor
  · -- Either equation is what is left of the given one when a kind at one end is left out.
    intro h
    have hfirst := congrArg (List.filter fun x => a x || b x) h
    have hlast := congrArg (List.filter fun x => b x || c x) h
    have hb (x : α) : ((a x || b x) && (b x || c x)) = b x := by
      cases ha : a x with
      | true => simp [hab x ha, hac x ha]
      | false => cases b x <;> simp
    have hnone (x : α) : ((a x || b x) && c x) = false := by
      cases ha : a x with
      | true => simp [hac x ha]
      | false =>
          cases hb : b x with
          | true => simp [hbc x hb]
          | false => rfl
    have hnone' (x : α) : ((b x || c x) && a x) = false := by
      cases ha : a x with
      | true => simp [hab x ha, hac x ha]
      | false => simp
    have hb' (x : α) : ((b x || c x) && (a x || b x)) = b x := by rw [Bool.and_comm, hb]
    have ha (x : α) : ((a x || b x) && a x) = a x := by cases a x <;> cases b x <;> rfl
    have hc (x : α) : ((b x || c x) && c x) = c x := by cases b x <;> cases c x <;> rfl
    simp only [List.filter_append, List.filter_filter, Bool.and_self, ha, hb, hnone,
      List.filter_false, List.append_nil] at hfirst
    simp only [List.filter_append, List.filter_filter, Bool.and_self, hc, hb', hnone',
      List.filter_false, List.nil_append] at hlast
    exact ⟨hfirst, hlast.symm⟩
  · rintro ⟨hfirst, hlast⟩
    rw [hfirst, hlast, List.append_assoc]

/-- Two ways of putting elements first, those that are `q` and those that are `p`, with what is `u`
of the others behind them, come to the same list. -/
theorem filter_append_congr_iff {p q u : α → Bool} (hpq : ∀ x, p x = true → q x = true) :
    l.filter q ++ l.filter (fun x => u x && !q x) =
        l.filter p ++ l.filter (fun x => u x && !p x) ↔
      (∀ x ∈ l, q x = true → p x = false → u x = true) ∧
        (l.Pairwise fun x y => ¬ ((q x && !p x) = true ∧ p y = true)) ∧
        l.Pairwise fun x y => ¬ ((u x && !q x) = true ∧ (q y && !p y) = true) := by
  have hq : l.filter q = l.filter fun x => p x || (q x && !p x) := by
    refine List.filter_congr fun x _ => ?_
    cases hp : p x with
    | true => simp [hpq x hp]
    | false => simp
  have hpNot (x : α) (hp : p x = true) : (u x && !q x) = false := by simp [hpq x hp]
  by_cases hunique : ∀ x ∈ l, q x = true → p x = false → u x = true
  · have hrest : l.filter (fun x => u x && !p x) =
        l.filter fun x => (q x && !p x) || (u x && !q x) := by
      refine List.filter_congr fun x hx => ?_
      cases hp : p x with
      | true => simp [hpq x hp]
      | false =>
          cases hqx : q x with
          | true => simp [hunique x hx hqx hp]
          | false => simp
    rw [hq, hrest, filter_append_filter_iff (fun x hp => by simp [hp]) hpNot
      fun x hv => by simp [(Bool.and_eq_true_iff.1 hv).1]]
    exact (and_iff_right hunique).symm
  · refine iff_of_false (fun h => hunique fun x hx hqx hp => ?_) fun h => hunique h.1
    have hmem : x ∈ l.filter p ++ l.filter fun x => u x && !p x := by
      rw [← h]
      exact List.mem_append_left _ (List.mem_filter.2 ⟨hx, hqx⟩)
    rcases List.mem_append.1 hmem with hmem | hmem
    · rw [(List.mem_filter.1 hmem).2] at hp
      cases hp
    · exact (Bool.and_eq_true_iff.1 (List.mem_filter.1 hmem).2).1

end

/-! ## Indexes -/

theorem indexesOf_eq_filter (ts : Tables) (table : String) (t : Table) :
    indexesOf ts table t =
      (t.columns.map indexOf).filter (fun i => isRelationColumn ts table t i.column) ++
        (t.columns.map indexOf).filter fun i =>
          i.unique && !isRelationColumn ts table t i.column := by
  rw [indexesOf, List.map_append, List.filter_map, List.filter_map]
  rfl

namespace Schema

/-- A foreign key of the table that finds a key has the column. -/
def Relates (s : Schema) (name column : String) : Prop :=
  ∃ e ∈ s.tables.foreignKeys name, s.options.primaryKeys.HasKey e.1 ∧ e.2.column = column

/-- Foreign keys of the table have the column, and none of them finds a key. -/
def Strays (s : Schema) (name column : String) : Prop :=
  (∃ e ∈ s.tables.foreignKeys name, e.2.column = column) ∧ ¬ s.Relates name column

instance (s : Schema) (name column : String) : Decidable (s.Relates name column) :=
  List.decidableBEx _ _

instance (s : Schema) (name column : String) : Decidable (s.Strays name column) :=
  inferInstanceAs (Decidable (_ ∧ _))

/-- The columns that foreign keys stray to have an index of their own at the very place where they
would have one without: each is unique, and all stand behind the related columns and in front of
the other unique ones. -/
structure Conceals (s : Schema) (name : String) (columns : List Column) : Prop where
  unique : ∀ c ∈ columns, s.Strays name c.name → c.typed.field.isUnique = true
  behind : columns.Pairwise fun x y => ¬ (s.Strays name x.name ∧ s.Relates name y.name)
  before : columns.Pairwise fun x y =>
    ¬ (x.typed.field.isUnique = true ∧ ¬ s.Relates name x.name ∧ ¬ s.Strays name x.name ∧
      s.Strays name y.name)

variable {s : Schema} {base : Tables} {name : String} {t : Table}

theorem isRelationColumn_iff (s : Schema) (name : String) (hplain : t.isJoinTable = false)
    (column : String) :
    isRelationColumn s.tables name t column = true ↔
      s.Relates name column ∨ s.Strays name column := by
  have hrelated : isRelationColumn s.tables name t column = true ↔
      ∃ e ∈ s.tables.foreignKeys name, e.2.column = column := by
    simp only [isRelationColumn, hplain, Bool.false_or, List.any_eq_true, decide_eq_true_eq]
  rw [hrelated]
  constructor
  · intro h
    by_cases hrelates : s.Relates name column
    · exact .inl hrelates
    · exact .inr ⟨h, hrelates⟩
  · rintro (⟨e, he, -, hcolumn⟩ | ⟨h, -⟩)
    · exact ⟨e, he, hcolumn⟩
    · exact h

/-- In the pruned tables no foreign key strays. -/
theorem isRelationColumn_pruned_iff
    (hbase : ∀ table other, s.tables.converse? table other = base.converse? table other)
    (name : String) (hplain : t.isJoinTable = false) (column : String) :
    isRelationColumn (s.tables.map (Table.pruned base s.options.primaryKeys)) name
        (t.pruned base s.options.primaryKeys name) column = true ↔ s.Relates name column := by
  have hplain' : (t.pruned base s.options.primaryKeys name).isJoinTable = false := hplain
  simp only [isRelationColumn, hplain', Bool.false_or, List.any_eq_true, decide_eq_true_eq,
    Tables.foreignKeys_map_pruned hbase, List.mem_filter, Relates, and_assoc]

theorem indexesOf_pruned_iff
    (hbase : ∀ table other, s.tables.converse? table other = base.converse? table other)
    (hplain : t.isJoinTable = false) :
    indexesOf (s.tables.map (Table.pruned base s.options.primaryKeys)) name
        (t.pruned base s.options.primaryKeys name) = indexesOf s.tables name t ↔
      s.Conceals name t.columns := by
  have hq := isRelationColumn_iff s name hplain
  have hp := isRelationColumn_pruned_iff hbase name hplain
  have hstrays (column : String) : (isRelationColumn s.tables name t column &&
      !isRelationColumn (s.tables.map (Table.pruned base s.options.primaryKeys)) name
        (t.pruned base s.options.primaryKeys name) column) = true ↔ s.Strays name column := by
    rw [Bool.and_eq_true, Bool.not_eq_true', Bool.eq_false_iff, Ne, hq, hp]
    exact ⟨fun h => h.1.resolve_left h.2, fun h => ⟨.inr h, h.2⟩⟩
  have hother (i : Index) : (i.unique && !isRelationColumn s.tables name t i.column) = true ↔
      i.unique = true ∧ ¬ s.Relates name i.column ∧ ¬ s.Strays name i.column := by
    rw [Bool.and_eq_true, Bool.not_eq_true', Bool.eq_false_iff, Ne, hq, not_or]
  have hcolumns : (t.pruned base s.options.primaryKeys name).columns = t.columns := rfl
  rw [eq_comm, indexesOf_eq_filter, indexesOf_eq_filter, hcolumns,
    filter_append_congr_iff fun i hi => (hq _).2 (.inl ((hp _).1 hi)), List.forall_mem_map,
    List.pairwise_map, List.pairwise_map]
  simp only [hstrays, hother, hp, and_assoc]
  constructor
  · rintro ⟨hunique, hbehind, hbefore⟩
    refine ⟨fun c hc h => ?_, hbehind, hbefore⟩
    obtain ⟨hrelated, hnot⟩ := Bool.and_eq_true_iff.1 ((hstrays c.name).2 h)
    exact hunique c hc hrelated ((Bool.not_eq_true' _).mp hnot)
  · rintro ⟨hunique, hbehind, hbefore⟩
    refine ⟨fun c hc hrelated hnot => ?_, hbehind, hbefore⟩
    exact hunique c hc ((hstrays c.name).1
      (Bool.and_eq_true_iff.2 ⟨hrelated, (Bool.not_eq_true' _).mpr hnot⟩))

/-- In a table that is marked as a join table the relations make no difference. -/
theorem indexesOf_of_joinTable {ts : Tables} (h : t.isJoinTable = true) :
    indexesOf ts name t = t.columns.map indexOf := by
  have hall (column : String) : isRelationColumn ts name t column = true := by
    rw [isRelationColumn, h, Bool.true_or]
  simp only [indexesOf, hall, List.filter_true, Bool.not_true, Bool.and_false, List.filter_false,
    List.append_nil]

end Schema

/-! ## The script -/

/-- The statement without the indexes of the table that it creates. -/
def Sql.Statement.unindexed : Statement → Statement
  | .createTable layout => .createTable { layout with indexes := [] }
  | st => st

namespace Schema

variable {s : Schema} {base : Tables} {defaults : Settings} {tablePrefix : String}

/-- The statements of a table that is created with the given indexes. -/
def indexed (s : Schema) (globals : Settings) (tablePrefix : String) (e : String × Table)
    (indexes : List Index) : List Statement :=
  Statement.tableBanner (Naming.physical tablePrefix e.1) ++
    [.dropTable (Naming.physical tablePrefix e.1),
      .createTable { s.layoutOf globals tablePrefix e with indexes }]

theorem indexed_inj {globals : Settings} {e : String × Table} {indexes indexes' : List Index} :
    s.indexed globals tablePrefix e indexes = s.indexed globals tablePrefix e indexes' ↔
      indexes = indexes' := by
  rw [indexed, indexed, List.append_right_inj]
  simp

/-- The scripts of all tables and of pruned ones, side by side. -/
theorem script_pruned (s : Schema) (base : Tables) (keys : KeyIndex) (defaults : Settings)
    (tablePrefix : String) :
    ∃ opening closing : List Statement,
      s.script defaults tablePrefix = opening ++ (s.tables.entries.flatMap fun e =>
        s.indexed (s.globals defaults) tablePrefix e (indexesOf s.tables e.1 e.2)) ++ closing ∧
      ({ s with tables := s.tables.map (Table.pruned base keys) } : Schema).script defaults
        tablePrefix = opening ++ (s.tables.entries.flatMap fun e =>
          s.indexed (s.globals defaults) tablePrefix e
            (indexesOf (s.tables.map (Table.pruned base keys)) e.1
              (e.2.pruned base keys e.1))) ++ closing := by
  refine ⟨[.foreignKeyChecks false], s.additions defaults tablePrefix ++ [.foreignKeyChecks true],
    ?_, ?_⟩
  · rw [script, flatMap_tableStatements, List.append_assoc]
    rfl
  · rw [script, flatMap_tableStatements, List.append_assoc]
    dsimp only
    rw [OrderedMap.entries_map, List.flatMap_map]
    rfl

/-- Leaving out the skipped relations changes nothing but indexes. -/
theorem unindexed_script_pruned (s : Schema) (base : Tables) (keys : KeyIndex)
    (defaults : Settings) (tablePrefix : String) :
    (({ s with tables := s.tables.map (Table.pruned base keys) } : Schema).script defaults
        tablePrefix).map Statement.unindexed =
      (s.script defaults tablePrefix).map Statement.unindexed := by
  obtain ⟨opening, closing, hscript, hpruned⟩ := script_pruned s base keys defaults tablePrefix
  rw [hscript, hpruned, List.map_append, List.map_append, List.map_append, List.map_append,
    List.map_flatMap, List.map_flatMap]
  rfl

/-- Leaving out the skipped relations changes nothing at all exactly if no column shows them. -/
theorem script_pruned_eq_iff
    (hbase : ∀ table other, s.tables.converse? table other = base.converse? table other)
    (defaults : Settings) (tablePrefix : String) :
    ({ s with tables := s.tables.map (Table.pruned base s.options.primaryKeys) } : Schema).script
        defaults tablePrefix = s.script defaults tablePrefix ↔
      ∀ e ∈ s.tables.entries, e.2.isJoinTable = false → s.Conceals e.1 e.2.columns := by
  obtain ⟨opening, closing, hscript, hpruned⟩ :=
    script_pruned s base s.options.primaryKeys defaults tablePrefix
  have hlength (f g : String × Table → List Index) : ∀ e ∈ s.tables.entries,
      (s.indexed (s.globals defaults) tablePrefix e (f e)).length =
        (s.indexed (s.globals defaults) tablePrefix e (g e)).length := fun _ _ => rfl
  rw [hscript, hpruned, List.append_left_inj, List.append_right_inj,
    flatMap_eq_flatMap_iff (hlength _ _)]
  simp only [indexed_inj]
  refine forall₂_congr fun e _ => ?_
  cases hjoin : e.2.isJoinTable with
  | true =>
      refine iff_of_true ?_ fun hplain => by cases hplain
      rw [indexesOf_of_joinTable hjoin]
      exact indexesOf_of_joinTable hjoin
  | false =>
      rw [indexesOf_pruned_iff hbase hjoin]
      exact ⟨fun h _ => h, fun h => h rfl⟩

theorem converse?_resolve (s : Schema) (defaults : Settings) (names : NameSource)
    (table other : String) :
    (s.resolve defaults names).schema.tables.converse? table other =
      s.tables.converse? table other := by
  rw [← s.converse?_joined defaults names, schema_resolve]
  refine Tables.converse?_map ?_ _ table other
  exact fun _ _ => rfl

end Schema

/-! ## The result -/

/-- Leaving out the relations that are skipped gives the same script but for indexes, and the same
script altogether exactly if every column that is named by nothing else conceals them. -/
theorem compile_pruned (c : Compiler) (s : Schema) (htables : s.tables.isEmpty = false)
    (hraw : s.isCompiled = false) :
    ∃ r r', c.compile s = .ok r ∧ c.compile (s.pruned r.schema.options.primaryKeys) = .ok r' ∧
      r'.compiler = r.compiler ∧
      r'.script.map Statement.unindexed = r.script.map Statement.unindexed ∧
      (r'.script = r.script ↔ ∀ e ∈ r.schema.tables.entries, e.2.isJoinTable = false →
        r.schema.Conceals e.1 e.2.columns) := by
  obtain ⟨r, hr, hschema, -⟩ := c.compile_of_uncompiled htables hraw
  have htables' : (s.pruned r.schema.options.primaryKeys).tables.isEmpty = false :=
    (OrderedMap.isEmpty_map _ _).trans htables
  obtain ⟨r', hr', hschema', -⟩ :=
    c.compile_of_uncompiled (s := s.pruned r.schema.options.primaryKeys) htables' hraw
  have hkeys : (s.joined c.defaults c.names).keys = r.schema.options.primaryKeys := by
    rw [hschema, Schema.primaryKeys_resolve]
  obtain ⟨hpruned, hnames⟩ := Schema.resolve_pruned hkeys
  rw [hpruned, ← hschema] at hschema'
  refine ⟨r, r', hr, hr', ?_, ?_, ?_⟩
  · rw [Compiler.compiler_of_compile hr hraw, Compiler.compiler_of_compile hr' hraw, hnames]
  · rw [Compiler.script_of_compile hr, Compiler.script_of_compile hr', hschema']
    exact Schema.unindexed_script_pruned _ _ _ _ _
  · rw [Compiler.script_of_compile hr, Compiler.script_of_compile hr', hschema']
    refine Schema.script_pruned_eq_iff (fun table other => ?_) _ _
    rw [hschema, Schema.converse?_resolve]

/-- Relations of every kind that are skipped, one of them under the name of a unique column, beside
one that is not. -/
def journal : Schema :=
  ({} : Schema)
    |>.addTable "author" (({} : Table).hasMany "post" {})
    |>.addTable "reader" {}
    |>.addTable "draft" (({ options := { primaryKey := some [] } } : Table).hasMany "post" {})
    |>.addTable "post" (((({} : Table).belongsTo "author").belongsTo "reader" |>.belongsTo "draft"
      |>.hasOne "ghost" {} |>.hasManyToMany "reader" {}
      |>.withField "draft_id" { typeName := "int", unique := some true }).withField "slug"
        { typeName := "string", unique := some true })

theorem compile_journal_pruned :
    journal.tables.isEmpty = false ∧ journal.isCompiled = false ∧
      ∃ r r', ({ names := .counting } : Compiler).compile journal = .ok r ∧
        ({ names := .counting } : Compiler).compile
          (journal.pruned r.schema.options.primaryKeys) = .ok r' ∧
        journal.pruned r.schema.options.primaryKeys ≠ journal ∧ r'.script = r.script := by
  refine ⟨by decide, by decide, ?_⟩
  obtain ⟨r, r', hr, hr', -, -, hscript⟩ :=
    compile_pruned { names := .counting } journal (by decide) (by decide)
  refine ⟨r, r', hr, hr', ?_, hscript.2 ?_⟩
  · obtain rfl := Except.ok.inj hr
    decide
  · obtain rfl := Except.ok.inj hr
    intro e he hplain
    constructor
    case unique => revert e; decide
    case behind => revert e; decide
    case before => revert e; decide

/-- A relation to a table that does not exist, under the name of a column that does. -/
def haunted : Schema :=
  ({ options := { settings := { timestamps := some false } } } : Schema)
    |>.addTable "post" ((({} : Table).hasOne "ghost" {}).withField "ghost_id" { typeName := "int" })

theorem compile_haunted_pruned :
    ∃ r r', ({ names := .counting } : Compiler).compile haunted = .ok r ∧
      ({ names := .counting } : Compiler).compile
        (haunted.pruned r.schema.options.primaryKeys) = .ok r' ∧ r'.statements ≠ r.statements := by
  refine ⟨_, _, rfl, rfl, ?_⟩
  decide

end SchemaDdl
