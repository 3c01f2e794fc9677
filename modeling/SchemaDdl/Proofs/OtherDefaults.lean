import SchemaDdl.Proofs.Recompilation
import SchemaDdl.Proofs.ScriptShape

/-!
# A compiled schema under other defaults

Settings stand in three layers, and the layers are put together twice, when a
schema is resolved and again when a script is made from it. In between the
schema may have been stored and read back by a project with other defaults, so
the third layer of the second time need not be that of the first.

It makes no difference to the tables. Resolving writes every setting into every
table, join tables included (`Table.IsSettled`), and a layer without gaps hides
whatever it is put onto. So all that creates tables is the same.

One setting is asked of the schema and not of its tables: whether constraints
are added at all. The options of the schema are kept as they were declared,
gaps and all, and where this one is a gap the defaults do decide.
`compile_underDefaults` says that they decide nothing else.
-/

namespace SchemaDdl

open Sql

/-! ## Tables -/

theorem Table.IsSettled.onto_eq {globals : Settings} {t : Table} (h : t.IsSettled globals)
    (base : Settings) : t.options.onto base = t.options.onto globals := by
  have hfilled : t.options.settings.fillFrom (t.options.onto globals) = t.options.settings :=
    congrArg TableOptions.settings h.options
  rw [TableOptions.onto, TableOptions.onto, ← hfilled, Overrides.fillFrom_onto,
    Overrides.fillFrom_onto]

namespace Schema

theorem opening_congr {s : Schema} {globals globals' : Settings}
    (h : ∀ e ∈ s.tables.entries, e.2.options.onto globals = e.2.options.onto globals')
    (tablePrefix : String) : s.opening globals tablePrefix = s.opening globals' tablePrefix := by
  rw [opening, opening, flatMap_tableStatements, flatMap_tableStatements]
  refine congrArg _ (List.flatMap_congr fun e he => ?_)
  rw [tableOrders, tableOrders, layoutOf, layoutOf, h e he]

/-- Resolved tables are created in the same way under any settings. -/
theorem opening_resolve (s : Schema) (defaults : Settings) (names : NameSource)
    (globals globals' : Settings) (tablePrefix : String) :
    (s.resolve defaults names).schema.opening globals tablePrefix =
      (s.resolve defaults names).schema.opening globals' tablePrefix := by
  refine opening_congr (fun e he => ?_) tablePrefix
  have hsettled := isSettled_resolve (OrderedMap.mem_entries_iff.1 he)
  rw [hsettled.onto_eq globals, hsettled.onto_eq globals']

theorem script_eq_opening (s : Schema) (defaults : Settings) (tablePrefix : String) :
    s.script defaults tablePrefix = s.opening (s.globals defaults) tablePrefix ++
      s.additions defaults tablePrefix ++ [.foreignKeyChecks true] := rfl

end Schema

/-! ## Constraints -/

theorem ConstraintIndex.additions_eq_iff {i : ConstraintIndex} {on on' : Bool}
    {tablePrefix : String} :
    i.additions on tablePrefix = i.additions on' tablePrefix ↔ on = on' ∨ i.constrained = [] := by
  have hoff : i.additions false tablePrefix = [] := rfl
  have hon : i.additions true tablePrefix = [] ↔ i.constrained = [] := by
    rw [additions, if_pos rfl, List.flatMap_eq_nil_iff]
    refine ⟨fun h => List.eq_nil_iff_forall_not_mem.2 fun e he => ?_, fun h e he => ?_⟩
    · simpa using h e he
    · rw [h] at he
      cases he
  cases on with
  | false =>
      cases on' with
      | false => exact iff_of_true rfl (.inl rfl)
      | true => rw [hoff, eq_comm, hon, or_iff_right Bool.false_ne_true]
  | true =>
      cases on' with
      | false => rw [hoff, hon, or_iff_right Bool.false_ne_true.symm]
      | true => exact iff_of_true rfl (.inl rfl)

theorem ConstraintIndex.removals_congr {i : ConstraintIndex} {on on' : Bool}
    (h : on = on' ∨ i.constrained = []) (tablePrefix : String) :
    i.removals on tablePrefix = i.removals on' tablePrefix := by
  rcases h with rfl | h
  · rfl
  · rw [removals, removals, h, List.map_nil, ite_self, ite_self]

/-- The schema's own option hides that of the defaults. -/
theorem Schema.constraints_globals_eq_iff {s : Schema} {defaults defaults' : Settings} :
    (s.globals defaults).constraints = (s.globals defaults').constraints ↔
      s.options.settings.constraints.isSome = true ∨
        defaults.constraints = defaults'.constraints := by
  rw [globals, globals, Overrides.onto, Overrides.onto]
  cases s.options.settings.constraints with
  | none => simp
  | some on => simp

theorem Schema.ReferentiallyClosed.constrained_eq_nil_iff {s : Schema} (h : s.ReferentiallyClosed) :
    s.options.constraints.constrained = [] ↔ s.options.constraints.isEmpty = true := by
  rw [h.constrained_eq, OrderedMap.isEmpty, List.isEmpty_iff]

/-! ## The result -/

/-- The compiler with other defaults. -/
def Compiler.withDefaults (c : Compiler) (defaults : Settings) : Compiler := { c with defaults }

/-- A compiled schema is rendered by a compiler with other defaults as by one with those that it was
compiled with, up to the part that adds the constraints; and that part and the removals are the same
exactly if the schema or the defaults agree on it or there are no constraints. -/
theorem compile_underDefaults (c : Compiler) (s : Schema) (htables : s.tables.isEmpty = false)
    (hraw : s.isCompiled = false) :
    ∃ r, c.compile s = .ok r ∧ ∀ other : Compiler,
      other.render r.schema =
        r.schema.opening (r.schema.globals c.defaults) other.tablePrefix ++
          other.additions r.schema ++ [.foreignKeyChecks true] ∧
      (other.withDefaults c.defaults).render r.schema =
        r.schema.opening (r.schema.globals c.defaults) other.tablePrefix ++
          (other.withDefaults c.defaults).additions r.schema ++ [.foreignKeyChecks true] ∧
      (other.render r.schema = (other.withDefaults c.defaults).render r.schema ∧
          other.removals r.schema = (other.withDefaults c.defaults).removals r.schema ↔
        s.options.settings.constraints.isSome = true ∨
          other.defaults.constraints = c.defaults.constraints ∨
            r.schema.options.constraints.isEmpty = true) := by
  obtain ⟨r, hr, hschema, -⟩ := c.compile_of_uncompiled htables hraw
  have hclosed : r.schema.ReferentiallyClosed :=
    hschema ▸ s.referentiallyClosed_resolve c.defaults c.names
  have hsettings : r.schema.options.settings = s.options.settings := by
    rw [hschema]
    rfl
  have hopening (globals globals' : Settings) (tablePrefix : String) :
      r.schema.opening globals tablePrefix = r.schema.opening globals' tablePrefix := by
    rw [hschema]
    exact s.opening_resolve _ _ _ _ _
  have hrender (other : Compiler) : other.render r.schema =
      r.schema.opening (r.schema.globals c.defaults) other.tablePrefix ++
        other.additions r.schema ++ [.foreignKeyChecks true] := by
    rw [hopening _ (r.schema.globals other.defaults)]
    exact r.schema.script_eq_opening _ _
  refine ⟨r, hr, fun other => ⟨hrender other, hrender (other.withDefaults c.defaults), ?_⟩⟩
  have hadditions : other.additions r.schema = (other.withDefaults c.defaults).additions r.schema ↔
      (r.schema.globals other.defaults).constraints = (r.schema.globals c.defaults).constraints ∨
        r.schema.options.constraints.constrained = [] := ConstraintIndex.additions_eq_iff
  have hscript : other.render r.schema = (other.withDefaults c.defaults).render r.schema ↔
      other.additions r.schema = (other.withDefaults c.defaults).additions r.schema := by
    rw [hrender other, hrender (other.withDefaults c.defaults), List.append_left_inj]
    exact List.append_right_inj _
  rw [← or_assoc, ← hsettings, ← Schema.constraints_globals_eq_iff,
    ← hclosed.constrained_eq_nil_iff, hscript, hadditions, and_iff_left_iff_imp]
  exact fun h => ConstraintIndex.removals_congr h _

/-- A schema with gaps in its options, one of which a table fills for itself. -/
def workshop : Schema :=
  ({ options := { settings := { charset := some "utf8mb4" } } } : Schema)
    |>.addTable "tool" (({} : Table).hasManyToMany "course" {} |>.hasMany "loan" {})
    |>.addTable "course" (({} : Table).hasManyToMany "tool" {})
    |>.addTable "loan"
      ({ options := { settings := { timestamps := some false } } : Table }.belongsTo "tool")

theorem compile_workshop_underDefaults :
    workshop.tables.isEmpty = false ∧ workshop.isCompiled = false ∧
      ∃ r, ({ names := .counting } : Compiler).compile workshop = .ok r ∧
        r.schema.tables.keys = ["tool", "course", "loan", "tool_to_course"] ∧
        ∀ on, ∃ other : Compiler,
          other.defaults = ⟨false, on, "latin1", "latin1_swedish_ci", "MyISAM"⟩ ∧
          other.render r.schema = r.schema.opening (r.schema.globals {}) "ws_" ++
            other.additions r.schema ++ [.foreignKeyChecks true] ∧
          (other.render r.schema = (other.withDefaults {}).render r.schema ∧
            other.removals r.schema = (other.withDefaults {}).removals r.schema ↔ on = true) := by
  refine ⟨by decide, by decide, ?_⟩
  obtain ⟨r, hr, hall⟩ :=
    compile_underDefaults { names := .counting } workshop (by decide) (by decide)
  obtain rfl := Except.ok.inj hr
  refine ⟨_, rfl, by decide, fun on => ⟨⟨⟨false, on, "latin1", "latin1_swedish_ci", "MyISAM"⟩,
    "ws_", .counting⟩, rfl, (hall _).1, (hall _).2.2.trans ?_⟩⟩
  cases on with
  | true => exact iff_of_true (by decide) rfl
  | false => exact iff_of_false (by decide) Bool.false_ne_true

end SchemaDdl
