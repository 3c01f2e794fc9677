import SchemaDdl.Proofs.RewrittenTables

/-!
# The order of the tables

Tables may be rewritten one after another and look each other up while this goes
on, so that the first sees the others as they were declared and the last might
see them as they have become. It does not (`Schema.resolveInPlace_eq`), because
what a table reads of another, its relations and its key, is settled before the
first table is merged. Everything that is made for a table is therefore a
function of what is found under names, and the order in which the tables stand
plays no part in it: `Schema.Reorders` compares two schemas by their look-ups,
and both resolving and rendering respect it.

Names of constraints are the exception. They are drawn table after table, so a
table has other names in another order. Without the names the constraints obey
the rule as well, and since which constraints there are does not depend on the
names, neither does the number of names that are drawn.

Many-to-many relations are left out. Of two declarations the first decides
which side a join table is made from, and that does depend on the order.
-/

namespace SchemaDdl

open Sql

/-! ## Constraints without names -/

def Constraint.unnamed (c : Constraint) : Constraint := { c with name := "" }

def ConstraintIndex.unnamed (i : ConstraintIndex) : ConstraintIndex :=
  i.map fun _ constraints => constraints.map fun _ c => c.unnamed

def Schema.unnamed (s : Schema) : Schema :=
  { s with options := { s.options with constraints := s.options.constraints.unnamed } }

/-- The statement without the names of the constraints that it adds. -/
def Sql.Statement.unnamed : Statement → Statement
  | .addConstraints table clauses =>
    .addConstraints table (clauses.map fun clause => { clause with name := "" })
  | st => st

theorem NameSource.unnamed_naming (names : NameSource) (l : List (String × Constraint)) :
    (names.naming l).map (fun e => (e.1, e.2.unnamed)) = l.map fun e => (e.1, e.2.unnamed) := by
  induction l generalizing names with
  | nil => rfl
  | cons e r ih =>
      rw [naming, List.map_cons, List.map_cons, ih]
      rfl

/-- Which constraints are gathered does not depend on the names that are drawn for them. -/
theorem GatheredKeys.unnamed_ofTable (ts : Tables) (keys : KeyIndex) (withConstraints : Bool)
    (names : NameSource) (table : String) :
    ((ofTable ts keys withConstraints names table).constraints.map fun _ c => c.unnamed) =
      .ofList ((keys.foreignConstraints withConstraints (ts.foreignKeys table)).map
        fun e => (e.1, e.2.unnamed)) := by
  rw [(constraints_ofTable ts keys withConstraints names table).1, OrderedMap.map_ofList,
    NameSource.unnamed_naming]

/-! ## Look-ups in another order -/

section

variable {ts ts' : Tables} {keys keys' : KeyIndex}

theorem Tables.foreignKeys_of_get? (h : ∀ name, ts'.get? name = ts.get? name) (name : String) :
    ts'.foreignKeys name = ts.foreignKeys name := by
  simp only [Tables.foreignKeys, manyToOneKeys, Tables.converse?, h]

theorem KeyIndex.foreignColumns_of_get? (h : ∀ table, keys'.get? table = keys.get? table)
    (l : List (String × ForeignKey)) : keys'.foreignColumns l = keys.foreignColumns l := by
  simp only [foreignColumns, fun e : String × ForeignKey => referenced_congr (h e.1) e.2]

theorem KeyIndex.foreignConstraints_of_get? (h : ∀ table, keys'.get? table = keys.get? table)
    (withConstraints : Bool) (l : List (String × ForeignKey)) :
    keys'.foreignConstraints withConstraints l = keys.foreignConstraints withConstraints l := by
  simp only [foreignConstraints, fun e : String × ForeignKey => referenced_congr (h e.1) e.2]

end

namespace ResolvedKeys

variable {globals : Settings}

/-- The constraints that names are drawn for in a table. -/
def named (globals : Settings) (j : JoinedTables) (e : String × Table) :
    List (String × Constraint) :=
  j.keys.foreignConstraints (e.2.options.settings.constraints.getD globals.constraints)
    (j.tables.foreignKeys e.1)

theorem names_foldl_add (globals : Settings) (j : JoinedTables) (l : List (String × Table))
    (r : ResolvedKeys) :
    (l.foldl (add j globals) r).names = r.names.advance (l.flatMap (named globals j)).length := by
  induction l generalizing r with
  | nil => rfl
  | cons e l ih =>
      rw [List.foldl_cons, ih, List.flatMap_cons, List.length_append, add,
        (GatheredKeys.constraints_ofTable _ _ _ _ _).2]
      simp only [NameSource.advance, named, Nat.add_assoc]

theorem names_ofJoined (globals : Settings) (j : JoinedTables) :
    (ofJoined globals j).names =
      j.names.advance (j.tables.entries.flatMap (named globals j)).length :=
  names_foldl_add globals j _ _

end ResolvedKeys

/-- Both find the same under every name, so that they differ in the order of their entries only. -/
structure JoinedTables.Reorders (j j' : JoinedTables) : Prop where
  tables : ∀ name, j'.tables.get? name = j.tables.get? name
  keys : ∀ name, j'.keys.get? name = j.keys.get? name

namespace JoinedTables.Reorders

variable {globals : Settings} {j j' : JoinedTables}

theorem named_eq (h : j.Reorders j') (globals : Settings) (e : String × Table) :
    ResolvedKeys.named globals j' e = ResolvedKeys.named globals j e := by
  rw [ResolvedKeys.named, ResolvedKeys.named, Tables.foreignKeys_of_get? h.tables,
    KeyIndex.foreignConstraints_of_get? h.keys]

theorem length_named (h : j.Reorders j') (globals : Settings) :
    (j'.tables.entries.flatMap (ResolvedKeys.named globals j')).length =
      (j.tables.entries.flatMap (ResolvedKeys.named globals j)).length := by
  rw [List.flatMap_congr fun e _ => h.named_eq globals e]
  exact ((OrderedMap.perm_entries_iff.2 h.tables).flatMap_right _).length_eq

/-- Constraints that are added to none differ in nothing but their names. -/
theorem unnamed_constraints (h : j.Reorders j') (globals : Settings) (name : String) :
    (ConstraintIndex.unnamed ((ResolvedKeys.ofJoined globals j').constraints {})).get? name =
      (ConstraintIndex.unnamed ((ResolvedKeys.ofJoined globals j).constraints {})).get? name := by
  rw [ConstraintIndex.unnamed, ConstraintIndex.unnamed, OrderedMap.get?_map, OrderedMap.get?_map,
    ResolvedKeys.get?_constraints, ResolvedKeys.get?_constraints]
  cases ht : j.tables.get? name with
  | none =>
      rw [ResolvedKeys.lookup_foreign_of_not_table ht,
        ResolvedKeys.lookup_foreign_of_not_table ((h.tables name).trans ht)]
  | some t =>
      obtain ⟨g, hg, names, rfl⟩ := ResolvedKeys.lookup_foreign_of_table globals ht
      obtain ⟨g', hg', names', rfl⟩ :=
        ResolvedKeys.lookup_foreign_of_table globals ((h.tables name).trans ht)
      have hunnamed := GatheredKeys.unnamed_ofTable j'.tables j'.keys
        (t.options.settings.constraints.getD globals.constraints) names' name
      rw [Tables.foreignKeys_of_get? h.tables, KeyIndex.foreignConstraints_of_get? h.keys,
        ← GatheredKeys.unnamed_ofTable j.tables j.keys _ names name] at hunnamed
      have hempty := congrArg OrderedMap.isEmpty hunnamed
      rw [OrderedMap.isEmpty_map, OrderedMap.isEmpty_map] at hempty
      rw [hg, hg']
      dsimp only
      rw [hempty]
      split
      · rfl
      · have hextend (m : OrderedMap Constraint) :
            ((({} : ConstraintIndex).get? name).getD {}).extend m = m := OrderedMap.empty_extend m
        rw [hextend, hextend, Option.map_some, Option.map_some, hunnamed]

end JoinedTables.Reorders

/-! ## Resolving -/

/-- The same tables, keys and constraints are found in both, under the same settings. -/
structure Schema.Reorders (s s' : Schema) : Prop where
  settings : s'.options.settings = s.options.settings
  tables : ∀ name, s'.tables.get? name = s.tables.get? name
  primaryKeys : ∀ name, s'.options.primaryKeys.get? name = s.options.primaryKeys.get? name
  constraints : ∀ name, s'.options.constraints.get? name = s.options.constraints.get? name

theorem KeyedTables.manyToMany_ofTables (globals : Settings) (ts : Tables) :
    (ofTables globals ts).tables.manyToMany = ts.manyToMany := by
  simp only [Tables.manyToMany, ofTables, OrderedMap.entries_map, List.flatMap_map,
    Table.settled_manyToMany]

namespace Schema

variable {s s' : Schema} {defaults : Settings} {names names' : NameSource}

/-- Where no many-to-many relation is declared, joining adds nothing. -/
theorem joined_of_none (h : s.tables.manyToMany = []) (defaults : Settings) (names : NameSource) :
    s.joined defaults names =
      { tables := (s.keyed defaults).tables, keys := (s.keyed defaults).keys, names } := by
  rw [joined, JoinedTables.ofKeyed, keyed, KeyedTables.manyToMany_ofTables, h]
  rfl

theorem manyToMany_of_perm (h : s'.tables.entries.Perm s.tables.entries)
    (hnone : s.tables.manyToMany = []) : s'.tables.manyToMany = [] := by
  have hperm : s'.tables.manyToMany.Perm s.tables.manyToMany := h.flatMap_right _
  rw [hnone] at hperm
  exact hperm.eq_nil

theorem globals_of_settings (h : s'.options.settings = s.options.settings) (defaults : Settings) :
    s'.globals defaults = s.globals defaults := by rw [globals, globals, h]

variable (hoptions : s'.options = s.options) (hperm : s'.tables.entries.Perm s.tables.entries)
  (hnone : s.tables.manyToMany = [])

include hoptions hperm hnone

theorem joined_reorders (defaults : Settings) (names names' : NameSource) :
    (s.joined defaults names).Reorders (s'.joined defaults names') := by
  have hglobals := globals_of_settings (congrArg SchemaOptions.settings hoptions) defaults
  have hget := OrderedMap.perm_entries_iff.1 hperm
  rw [joined_of_none hnone, joined_of_none (manyToMany_of_perm hperm hnone)]
  refine ⟨fun name => ?_, fun name => ?_⟩
  · rw [get?_tables_keyed, get?_tables_keyed, hget, hglobals]
  · rw [keyed, keyed, KeyedTables.get?_keys_ofTables, KeyedTables.get?_keys_ofTables, hget,
      hglobals]

/-- Resolving two orders of the same tables finds the same under every name. -/
theorem resolve_reorders (defaults : Settings) (names names' : NameSource) :
    (s.resolve defaults names).schema.unnamed.Reorders
      (s'.resolve defaults names').schema.unnamed := by
  have hglobals := globals_of_settings (congrArg SchemaOptions.settings hoptions) defaults
  have hjoined := joined_reorders hoptions hperm hnone defaults names names'
  refine ⟨?_, fun name => ?_, hjoined.keys, fun name => ?_⟩
  · show s'.options.settings = s.options.settings
    rw [hoptions]
  · show (s'.resolve defaults names').schema.tables.get? name =
      (s.resolve defaults names).schema.tables.get? name
    rw [get?_tables_resolve, get?_tables_resolve, foreignColumns, foreignColumns, hjoined.tables,
      hjoined.keys, KeyIndex.foreignColumns_of_get? hjoined.keys,
      Tables.foreignKeys_of_get? (OrderedMap.perm_entries_iff.1 hperm)]
  · have hconstraints (s : Schema) (hnone : s.tables.manyToMany = []) (names : NameSource) :
        (s.resolve defaults names).schema.unnamed.options.constraints =
          ConstraintIndex.unnamed ((ResolvedKeys.ofJoined (s.globals defaults)
            (s.joined defaults names)).constraints {}) := by
      have hbare : (s.joined defaults names).constraints = {} := by rw [joined_of_none hnone]
      rw [← hbare]
      rfl
    rw [hconstraints s hnone, hconstraints s' (manyToMany_of_perm hperm hnone), hglobals]
    exact hjoined.unnamed_constraints _ name

/-- Resolving two orders of the same tables draws the same number of names. -/
theorem names_resolve_of_perm (defaults : Settings) (names names' : NameSource) :
    ∃ n, (s.resolve defaults names).names = names.advance n ∧
      (s'.resolve defaults names').names = names'.advance n := by
  have hglobals := globals_of_settings (congrArg SchemaOptions.settings hoptions) defaults
  have hjoined := joined_reorders hoptions hperm hnone defaults names names'
  have hdrawn (s : Schema) (hnone : s.tables.manyToMany = []) (names : NameSource) :
      (s.resolve defaults names).names = names.advance
        ((s.joined defaults names).tables.entries.flatMap
          (ResolvedKeys.named (s.globals defaults) (s.joined defaults names))).length := by
    have hstart : (s.joined defaults names).names = names := by rw [joined_of_none hnone]
    refine (ResolvedKeys.names_ofJoined (s.globals defaults) (s.joined defaults names)).trans ?_
    rw [hstart]
  refine ⟨_, hdrawn s hnone names, ?_⟩
  rw [hdrawn s' (manyToMany_of_perm hperm hnone), hglobals, hjoined.length_named]

end Schema

/-! ## Rendering -/

namespace ConstraintIndex

theorem additions_perm {i i' : ConstraintIndex} (h : ∀ name, i'.get? name = i.get? name) (on : Bool)
    (tablePrefix : String) : (additions i' on tablePrefix).Perm (additions i on tablePrefix) := by
  cases on with
  | false => exact .refl _
  | true => exact ((OrderedMap.perm_entries_iff.2 h).filter _).flatMap_right _

theorem additions_unnamed (i : ConstraintIndex) (on : Bool) (tablePrefix : String) :
    additions (unnamed i) on tablePrefix = (additions i on tablePrefix).map Statement.unnamed := by
  cases on with
  | false => rfl
  | true =>
      have hclauses (e : String × OrderedMap Constraint) :
          (e.2.map fun _ c => c.unnamed).values.map (clauseOf tablePrefix) =
            (e.2.values.map (clauseOf tablePrefix)).map
              fun clause => { clause with name := "" } := by
        rw [OrderedMap.values, OrderedMap.values, OrderedMap.entries_map, List.map_map,
          List.map_map, List.map_map, List.map_map]
        rfl
      simp only [additions, if_true, constrained, unnamed, OrderedMap.entries_map, List.filter_map,
        List.flatMap_map, List.map_flatMap, Function.comp_def, OrderedMap.isEmpty_map, hclauses]
      rfl

end ConstraintIndex

namespace Schema

variable {s s' : Schema}

theorem Reorders.tableStatements (h : s.Reorders s') (globals : Settings)
    (tablePrefix name : String) :
    s'.tableStatements globals tablePrefix name = s.tableStatements globals tablePrefix name := by
  simp only [Schema.tableStatements, tableLayout?, h.tables, indexesOf, isRelationColumn,
    Tables.foreignKeys_of_get? h.tables, keyColumns, h.primaryKeys]

/-- The scripts of reordered schemas are made of the same statements. -/
theorem Reorders.script (h : s.Reorders s') (defaults : Settings) (tablePrefix : String) :
    (s'.script defaults tablePrefix).Perm (s.script defaults tablePrefix) := by
  have hkeys : s'.tables.keys.Perm s.tables.keys := (OrderedMap.perm_entries_iff.2 h.tables).map _
  rw [Schema.script, Schema.script, additions, additions, globals_of_settings h.settings]
  refine .append (.append (.append_left _ ?_) ?_) (.refl _)
  · rw [List.flatMap_congr fun name _ => h.tableStatements _ tablePrefix name]
    exact hkeys.flatMap_right _
  · exact ConstraintIndex.additions_perm h.constraints _ _

theorem tableStatements_unnamed (s : Schema) (globals : Settings) (tablePrefix name : String) :
    (s.tableStatements globals tablePrefix name).map Statement.unnamed =
      s.tableStatements globals tablePrefix name := by
  rw [Schema.tableStatements]
  split
  · rfl
  · rfl

theorem script_unnamed (s : Schema) (defaults : Settings) (tablePrefix : String) :
    s.unnamed.script defaults tablePrefix =
      (s.script defaults tablePrefix).map Statement.unnamed := by
  have htables : s.unnamed.tableStatements (s.globals defaults) tablePrefix =
      s.tableStatements (s.globals defaults) tablePrefix := rfl
  have hadditions : s.unnamed.additions defaults tablePrefix =
      (s.additions defaults tablePrefix).map Statement.unnamed :=
    ConstraintIndex.additions_unnamed _ _ _
  rw [Schema.script, Schema.script, List.map_append, List.map_append, List.map_append,
    List.map_flatMap, ← hadditions]
  simp only [tableStatements_unnamed]
  rfl

end Schema

/-! ## The result -/

/-- Two orders of the same tables, none of them with a many-to-many relation, are compiled to the
same tables, keys, statements and, but for their names, constraints. -/
theorem compile_perm (c : Compiler) (names' : NameSource) (s s' : Schema)
    (htables : s.tables.isEmpty = false) (hraw : s.isCompiled = false)
    (hnone : s.tables.manyToMany = []) (hoptions : s'.options = s.options)
    (hperm : s'.tables.entries.Perm s.tables.entries) :
    ∃ r r', c.compile s = .ok r ∧ ({ c with names := names' } : Compiler).compile s' = .ok r' ∧
      r.schema.tables.keys = s.tables.keys ∧ r'.schema.tables.keys = s'.tables.keys ∧
      (∀ name,
        r'.schema.tables.get? name = r.schema.tables.get? name ∧
        r'.schema.options.primaryKeys.get? name = r.schema.options.primaryKeys.get? name ∧
        r'.schema.tableStatements (r'.schema.globals c.defaults) c.tablePrefix name =
          r.schema.tableStatements (r.schema.globals c.defaults) c.tablePrefix name ∧
        r'.schema.options.constraints.unnamed.get? name =
          r.schema.options.constraints.unnamed.get? name) ∧
      (r'.script.map Statement.unnamed).Perm (r.script.map Statement.unnamed) ∧
      ∃ n, r.compiler.names = c.names.advance n ∧ r'.compiler.names = names'.advance n := by
  have htables' : s'.tables.isEmpty = false := hperm.isEmpty_eq.trans htables
  have hraw' : s'.isCompiled = false := by
    rw [Schema.isCompiled, hoptions, ← Schema.isCompiled, hraw]
  obtain ⟨r, hr, hschema, -⟩ := c.compile_of_uncompiled htables hraw
  obtain ⟨r', hr', hschema', -⟩ :=
    ({ c with names := names' } : Compiler).compile_of_uncompiled htables' hraw'
  have hreorders := Schema.resolve_reorders hoptions hperm hnone c.defaults c.names names'
  rw [← hschema, ← hschema'] at hreorders
  have hkeys (s : Schema) (hnone : s.tables.manyToMany = []) (names : NameSource) :
      (s.resolve c.defaults names).schema.tables.keys = s.tables.keys := by
    rw [Schema.keys_tables_resolve, Schema.joined_of_none hnone]
    exact KeyedTables.keys_tables_ofTables _ _
  refine ⟨r, r', hr, hr', ?_, ?_, fun name => ⟨hreorders.tables name,
    hreorders.primaryKeys name, ?_, hreorders.constraints name⟩, ?_, ?_⟩
  · rw [hschema, hkeys s hnone]
  · rw [hschema', hkeys s' (Schema.manyToMany_of_perm hperm hnone)]
  · have hglobals : r'.schema.globals c.defaults = r.schema.globals c.defaults :=
      Schema.globals_of_settings hreorders.settings c.defaults
    rw [hglobals]
    exact hreorders.tableStatements _ _ name
  · rw [Compiler.script_of_compile hr, Compiler.script_of_compile hr', ← Schema.script_unnamed,
      ← Schema.script_unnamed]
    exact hreorders.script _ _
  · rw [Compiler.compiler_of_compile hr hraw, Compiler.compiler_of_compile hr' hraw']
    exact Schema.names_resolve_of_perm hoptions hperm hnone _ _ _

/-- Two tables that refer to each other; one of them refers to itself as well, under the column that
it has for the other. -/
def company : Schema :=
  ({} : Schema)
    |>.addTable "team"
      (({} : Table).hasOne "staff" { column := some "leader" } |>.hasMany "staff" {})
    |>.addTable "staff"
      ((({} : Table).belongsTo "team").hasOne "staff" { column := some "team_id" })
    |>.addTable "log" (({} : Table).hasOne "staff" { cascade := .setNull })

/-- The tables of `company` from the last to the first. -/
def companyBackwards : Schema := { company with tables := .ofList company.tables.entries.reverse }

theorem compile_company_perm :
    company.tables.isEmpty = false ∧ company.isCompiled = false ∧ company.tables.manyToMany = [] ∧
      companyBackwards.options = company.options ∧
      companyBackwards.tables.entries.Perm company.tables.entries ∧
      ∃ r r', ({ names := .counting } : Compiler).compile company = .ok r ∧
        ({ names := .counting } : Compiler).compile companyBackwards = .ok r' ∧
        r.schema.tables.keys = ["team", "staff", "log"] ∧
        r'.schema.tables.keys = ["log", "staff", "team"] ∧
        r'.schema.tables.get? "staff" = r.schema.tables.get? "staff" ∧
        (r'.script.map Statement.unnamed).Perm (r.script.map Statement.unnamed) := by
  have hperm : companyBackwards.tables.entries.Perm company.tables.entries :=
    List.reverse_perm company.tables.entries
  refine ⟨by decide, by decide, rfl, rfl, hperm, ?_⟩
  obtain ⟨r, r', hr, hr', hkeys, hkeys', hall, hscript, -⟩ :=
    compile_perm { names := .counting } .counting company companyBackwards (by decide) (by decide)
      rfl rfl hperm
  exact ⟨r, r', hr, hr', hkeys, hkeys', (hall "staff").1, hscript⟩

end SchemaDdl
