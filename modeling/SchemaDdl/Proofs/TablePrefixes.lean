import SchemaDdl.Database.Configured
import SchemaDdl.Files.Tree
import SchemaDdl.Proofs.FrozenSession
import SchemaDdl.Proofs.Importing
import SchemaDdl.Proofs.ScriptShape

/-!
# Which prefix a namespace gets

A script is rendered once, with one prefix, and every table that its statements
name is a table of the schema under that prefix. Which prefix this is has been
decided before a target is chosen: every call loads before it does anything to
the gateway, so it is the prefix of the namespace that the gateway was on at the
start. With the gateway of a configuration that is the default namespace.

So a namespace gets the prefix that is configured for it if the default one has
the same, and once it has got a whole script only then. The second half is about
names and not about prefixes, since one name may be read under two prefixes; but
there is no way to read all names of a schema under another.
-/

namespace SchemaDdl

open Sql

/-! ## Tables of a statement -/

/-- The tables that a statement names. -/
def Sql.Statement.tables (st : Statement) : List String :=
  match st with
  | .dropTable table => [table]
  | .createTable layout => [layout.name]
  | st => st.referredTables

namespace Schema

variable {s : Schema} {defaults : Settings} {tablePrefix other : String}

/-- Every table that the statement names is one of the schema under the prefix. -/
def Owns (s : Schema) (tablePrefix : String) (st : Statement) : Prop :=
  ∀ table ∈ st.tables, ∃ name ∈ s.tables.keys, table = Naming.physical tablePrefix name

theorem tables_of_additions {st : Statement} (h : st ∈ s.additions defaults tablePrefix) :
    st.tables = st.referredTables := by
  rw [additions, ConstraintIndex.additions] at h
  split at h
  · obtain ⟨e, -, h⟩ := List.mem_flatMap.1 h
    simp only [Statement.constraintBanner, Statement.banner, List.mem_append, List.mem_cons,
      List.not_mem_nil, or_false] at h
    obtain (rfl | rfl | rfl) | rfl := h
    · rfl
    · rfl
    · rfl
    · rfl
  · cases h

theorem ReferentiallyClosed.owns_of_script (h : s.ReferentiallyClosed) {st : Statement}
    (hst : st ∈ s.script defaults tablePrefix) : s.Owns tablePrefix st := by
  intro table htable
  rw [script, flatMap_tableStatements, List.mem_append, List.mem_append, List.mem_append,
    List.mem_singleton, List.mem_singleton, List.mem_flatMap] at hst
  obtain ((rfl | ⟨e, he, hst⟩) | hst) | rfl := hst
  · cases htable
  · simp only [Statement.tableBanner, Statement.banner, tableOrders, List.mem_append, List.mem_cons,
      List.not_mem_nil, or_false] at hst
    have hname : e.1 ∈ s.tables.keys := List.mem_map_of_mem he
    obtain (rfl | rfl | rfl) | rfl | rfl := hst
    · cases htable
    · cases htable
    · cases htable
    · exact ⟨e.1, hname, List.mem_singleton.1 htable⟩
    · exact ⟨e.1, hname, List.mem_singleton.1 htable⟩
  · rw [tables_of_additions hst] at htable
    exact h.mem_tables_of_additions hst htable
  · cases htable

theorem dropTable_mem_script {name : String} (h : name ∈ s.tables.keys) :
    .dropTable (Naming.physical tablePrefix name) ∈ s.script defaults tablePrefix := by
  obtain ⟨e, he, rfl⟩ := List.mem_map.1 h
  rw [script, flatMap_tableStatements]
  refine List.mem_append_left _ (List.mem_append_left _ (List.mem_append_right _ ?_))
  exact List.mem_flatMap.2 ⟨e, he, List.mem_append_right _ List.mem_cons_self⟩

end Schema

/-- Prefixes that make the same names out of some names are the same: the longest of the names shows
that the one is not longer than the other, and the shortest that it is not shorter. -/
theorem Naming.prefix_eq_of_physical {p q : String} {names : List String} (hne : names ≠ [])
    (h : ∀ a ∈ names, ∃ b ∈ names, physical p a = physical q b) : p = q := by
  have hlength (a : String) (ha : a ∈ names) :
      ∃ b ∈ names, p.length + a.length = q.length + b.length ∧ physical p a = physical q b := by
    obtain ⟨b, hb, hab⟩ := h a ha
    have := congrArg String.length hab
    rw [physical, physical, String.length_append, String.length_append] at this
    exact ⟨b, hb, this, hab⟩
  have hne' : names.map String.length ≠ [] := mt List.map_eq_nil_iff.1 hne
  obtain ⟨longest, hlongest, hmax⟩ := List.mem_map.1 (List.max_mem hne')
  obtain ⟨shortest, hshortest, hmin⟩ := List.mem_map.1 (List.min_mem hne')
  obtain ⟨a, ha, hlong, hname⟩ := hlength longest hlongest
  obtain ⟨b, hb, hshort, -⟩ := hlength shortest hshortest
  have hle : a.length ≤ longest.length := hmax ▸ List.le_max_of_mem (List.mem_map_of_mem ha)
  have hge : shortest.length ≤ b.length := hmin ▸ List.min_le_of_mem (List.mem_map_of_mem hb)
  have heq : p.toList.length = q.toList.length := by
    rw [String.length_toList, String.length_toList]
    omega
  have hlist := congrArg String.toList hname
  rw [physical, physical, String.toList_append, String.toList_append] at hlist
  exact String.toList_inj.1 (List.append_inj hlist heq).1

theorem Schema.prefix_eq_of_owns {s : Schema} {defaults : Settings} {tablePrefix other : String}
    (htables : s.tables.isEmpty = false)
    (h : ∀ st ∈ s.script defaults tablePrefix, s.Owns other st) : tablePrefix = other := by
  obtain ⟨name, t, hname⟩ := OrderedMap.isEmpty_eq_false_iff.1 htables
  refine Naming.prefix_eq_of_physical (List.ne_nil_of_mem (OrderedMap.mem_keys_of_get? hname))
    fun a ha => ?_
  exact h _ (dropTable_mem_script ha) _ (List.mem_singleton.2 rfl)

/-! ## Where dumps are -/

theorem Path.toList_join (base path : String) :
    ∃ l, (join base path).toList = l ++ path.toList := by
  unfold join
  split
  · exact ⟨[], rfl⟩
  · split
    · exact ⟨_, String.toList_append⟩
    · exact ⟨_, String.toList_append⟩

theorem Store.artifactPath_ne_dumpPath (store : Store) (space space' : String) :
    store.artifactPath space ≠ store.dumpPath space' := by
  intro h
  obtain ⟨l, hartifact⟩ := Path.toList_join store.buildDir (Naming.artifactFile space)
  obtain ⟨l', hdump⟩ := Path.toList_join store.dumpDir (Naming.dumpFile space')
  rw [artifactPath, dumpPath, ← String.toList_inj, hartifact, hdump] at h
  simp only [Naming.artifactFile, Naming.dumpFile, String.toList_append, ← List.append_assoc] at h
  -- The endings differ in the last letter but one.
  rw [show ".yaml".toList = ['.', 'y', 'a'] ++ ['m', 'l'] by decide,
    show ".sql".toList = ['.', 's'] ++ ['q', 'l'] by decide, ← List.append_assoc,
    ← List.append_assoc] at h
  cases (List.append_inj' h rfl).2

/-- Where the record has a dump, it is one of the statements. -/
theorem KeptTo.dump_of_mem {store : Store} {schema : Schema} {statements : List String}
    {calls : List FileCall} (h : KeptTo store schema statements calls) {space content : String}
    {ok : Bool} (hmem : .write (store.dumpPath space) content ok ∈ calls) :
    ∃ seconds, content = dumpText statements seconds := by
  induction h with
  | start => cases hmem
  | directories path succeeded h ih =>
      rcases List.mem_append.1 hmem with hmem | hmem
      · exact ih hmem
      · cases List.mem_singleton.1 hmem
  | artifact space' succeeded h ih =>
      rcases List.mem_append.1 hmem with hmem | hmem
      · exact ih hmem
      · exact absurd (FileCall.write.inj (List.mem_singleton.1 hmem)).1.symm
          (store.artifactPath_ne_dumpPath space' space)
  | backup space' succeeded h ih =>
      rcases List.mem_append.1 hmem with hmem | hmem
      · exact ih hmem
      · rcases List.mem_cons.1 hmem with hmem | hmem
        · exact absurd (FileCall.write.inj hmem).1.symm
            (store.artifactPath_ne_dumpPath space' space)
        · cases List.mem_singleton.1 hmem
  | dump space' seconds succeeded hcontent hdump h ih =>
      rcases List.mem_append.1 hmem with hmem | hmem
      · exact ih hmem
      · exact ⟨seconds, (FileCall.write.inj (List.mem_singleton.1 hmem)).2.1.trans hcontent⟩

/-! ## What is executed -/

namespace Session

open GatewayCall

section Executed

variable {γ φ : Type} [Gateway γ] [FileAccess (StateM φ)] {s : Session (Watched γ)}

theorem executed_imported (s : Session (Watched γ)) (space : Option String) {x : String}
    (hx : x ∈ executed (s.imported space).2.calls) :
    x ∈ executed s.gateway.calls ∨ x ∈ s.load.2.statements := by
  by_cases hscript : s.load.2.script = []
  · rw [imported_of_idle hscript] at hx
    exact .inl hx
  · obtain ⟨calls, hcalls, himport⟩ :=
      importCalls_applied s.gateway s.load.2.executable (s.target space)
    have hstop := FailStop.of_importCalls (fun h => hscript (List.map_eq_nil_iff.1 h)) himport
    rw [imported_of_script hscript, hcalls, executed_append, List.mem_append] at hx
    exact hx.imp_right fun h => List.mem_of_mem_filter (hstop.inOrder.subset h)

theorem mem_statements_load {x : String} (h : x ∈ s.statements) : x ∈ s.load.2.statements := by
  by_cases hscript : s.script = []
  · rw [statements, hscript] at h
    cases h
  · rwa [load_of_script hscript]

/-- Only statements of the script are executed. -/
theorem executed_performAll (h : ∀ x ∈ executed s.gateway.calls, x ∈ s.statements) (files : φ)
    (calls : List SessionCall) :
    let after := ((s.performAll calls : StateM φ _).run files).1
    ∀ x ∈ executed after.gateway.calls, x ∈ after.statements := by
  induction calls generalizing s files with
  | nil => exact h
  | cons call r ih =>
      obtain ⟨s', files', hrun, ⟨hsame, -⟩, hgateway⟩ := s.perform_run call files
      rw [performAll_cons, hrun]
      refine ih (fun x hx => ?_) files'
      rw [hsame.statements]
      obtain hgateway | ⟨space, hgateway⟩ := hgateway
      · rw [hgateway] at hx
        exact mem_statements_load (h x hx)
      · rw [hgateway] at hx
        exact (executed_imported s space hx).elim (fun hx => mem_statements_load (h x hx)) id

end Executed

end Session

/-! ## Prefixes -/

/-- A compiled schema refers only to what it has, if it was not compiled before or did so then. -/
theorem Compiler.referentiallyClosed_of_compile {c : Compiler} {s : Schema} {r : Compilation}
    (h : c.compile s = .ok r) (htables : s.tables.isEmpty = false)
    (hclosed : s.isCompiled = false ∨ s.ReferentiallyClosed) : r.schema.ReferentiallyClosed := by
  cases hraw : s.isCompiled with
  | false =>
      obtain ⟨r', hr', hschema, -⟩ := c.compile_of_uncompiled htables hraw
      obtain rfl : r = r' := Except.ok.inj (h.symm.trans hr')
      rw [hschema]
      exact s.referentiallyClosed_resolve c.defaults c.names
  | true =>
      obtain ⟨r', hr', hschema, -⟩ := c.compile_of_compiled htables hraw
      obtain rfl : r = r' := Except.ok.inj (h.symm.trans hr')
      rw [hschema]
      exact hclosed.resolve_left (by rw [hraw]; exact Bool.noConfusion)

namespace Session

variable {γ : Type} [Gateway γ] {initial s : Session (Watched γ)} {files : List FileCall}
  {space tablePrefix : String}

/-- What was executed on a namespace, and what was dumped for it, names the tables of the schema
under a prefix. -/
structure Carries (s : Session (Watched γ)) (files : List FileCall) (space tablePrefix : String) :
    Prop where
  executed : ∀ x ok, .execute space x ok ∈ s.gateway.calls →
    x ∈ s.statements ∧ ∀ st ∈ s.script, st.text = x → s.schema.Owns tablePrefix st
  dumped : ∀ content ok, .write (s.store.dumpPath space) content ok ∈ files →
    (∃ seconds, content = dumpText s.statements seconds) ∧
      ∀ st ∈ s.script, s.schema.Owns tablePrefix st

/-- The whole script was executed on a namespace, or a dump was written for it. -/
def Served (s : Session (Watched γ)) (files : List FileCall) (space : String) : Prop :=
  (s.script ≠ [] ∧ ∀ x ∈ s.executable, ∃ ok, .execute space x ok ∈ s.gateway.calls) ∨
    ∃ content ok, .write (s.store.dumpPath space) content ok ∈ files

/-- Every namespace gets the prefix of the one that the gateway was on at the start. -/
theorem Frozen.carries (h : Frozen initial s files)
    (hexecuted : ∀ x ∈ GatewayCall.executed s.gateway.calls, x ∈ s.statements)
    (htables : initial.schema.tables.isEmpty = false)
    (hclosed : initial.schema.isCompiled = false ∨ initial.schema.ReferentiallyClosed)
    (space : String) : s.Carries files space (Gateway.tablePrefix initial.gateway) := by
  have howns : ∀ st ∈ s.script, s.schema.Owns (Gateway.tablePrefix initial.gateway) st := by
    intro st hst
    cases h with
    | raw hschema hscript hcompiler hstore hgateway hcalls =>
        rw [hscript] at hst
        cases hst
    | compiled c hc hschema hscript hcompiler hstore hcalls =>
        rw [hscript, Compiler.script_of_compile hc] at hst
        rw [hschema]
        exact (Compiler.referentiallyClosed_of_compile hc htables hclosed).owns_of_script hst
  refine ⟨fun x ok hcall => ⟨hexecuted x ?_, fun st hst _ => howns st hst⟩,
    fun content ok hcall => ⟨?_, howns⟩⟩
  · exact List.mem_filterMap.2 ⟨_, hcall, rfl⟩
  · cases h with
    | raw hschema hscript hcompiler hstore hgateway hcalls =>
        rw [hcalls] at hcall
        cases hcall
    | compiled c hc hschema hscript hcompiler hstore hcalls =>
        rw [hstore] at hcall
        rw [statements, hscript]
        exact hcalls.dump_of_mem hcall

/-- A namespace that got everything under a prefix got it under the one of the start. -/
theorem Frozen.prefix_eq (h : Frozen initial s files)
    (htables : initial.schema.tables.isEmpty = false) (hserved : s.Served files space)
    (hcarries : s.Carries files space tablePrefix) :
    Gateway.tablePrefix initial.gateway = tablePrefix := by
  cases h with
  | raw hschema hscript hcompiler hstore hgateway hcalls =>
      obtain ⟨hne, -⟩ | ⟨content, ok, hcall⟩ := hserved
      · exact absurd hscript hne
      · rw [hcalls] at hcall
        cases hcall
  | compiled c hc hschema hscript hcompiler hstore hcalls =>
      obtain ⟨c', hc', -, htables', -⟩ := Compiler.compile_ok
        (initial.compiler.withPrefix (Gateway.tablePrefix initial.gateway)) htables
      obtain rfl : c = c' := Except.ok.inj (hc.symm.trans hc')
      have howns : ∀ st ∈ s.script, s.schema.Owns tablePrefix st := by
        obtain ⟨-, hall⟩ | ⟨content, ok, hcall⟩ := hserved
        · intro st hst
          cases hbanner : st.isBanner with
          | true =>
              cases st with
              | comment line => exact fun table htable => by cases htable
              | _ => cases hbanner
          | false =>
              have hsent : (!isComment st.text) = true := Statement.isSent_of_not_banner hbanner
              obtain ⟨ok, hcall⟩ :=
                hall st.text (List.mem_filter.2 ⟨List.mem_map_of_mem hst, hsent⟩)
              exact (hcarries.executed st.text ok hcall).2 st hst rfl
        · exact (hcarries.dumped content ok hcall).2
      rw [hscript, hschema, Compiler.script_of_compile hc] at howns
      exact Schema.prefix_eq_of_owns htables' howns

/-- A session at its start on the gateway of a configuration, which is watched. -/
def onConfig {σ : Type} (c : Config) (server : σ) (schema : Schema) (compiler : Compiler)
    (store : Store) (journal : List Note) : Session (Watched (ConfiguredGateway σ)) where
  schema := schema
  compiler := compiler
  store := store
  gateway := { gateway := .ofConfig c server }
  journal := journal

section Configured

variable {σ φ : Type} [Server σ] [FileAccess (StateM φ)] (c : Config) (server : σ)
  (schema : Schema) (compiler : Compiler) (store : Store) (journal : List Note)
  (calls : List SessionCall) (files : φ)

theorem frozen_onConfig :
    let initial := onConfig c server schema compiler store journal
    let after := (initial.performAll calls : StateM (WatchedFiles φ) _).run { files }
    Frozen initial after.1 after.2.calls :=
  (Frozen.start rfl).performAll calls

/-- A namespace with the prefix of the default one gets its own, whatever is asked for in whatever
order; and one that got everything under its own prefix has that prefix. -/
theorem performAll_carries_iff (space : String) (htables : schema.tables.isEmpty = false)
    (hclosed : schema.isCompiled = false ∨ schema.ReferentiallyClosed) :
    let initial := onConfig c server schema compiler store journal
    let after := (initial.performAll calls : StateM (WatchedFiles φ) _).run { files }
    (c.tablePrefix space = c.tablePrefix c.defaultNamespace →
        after.1.Carries after.2.calls space (c.tablePrefix space)) ∧
      (after.1.Served after.2.calls space →
        after.1.Carries after.2.calls space (c.tablePrefix space) →
        c.tablePrefix space = c.tablePrefix c.defaultNamespace) := by
  have hfrozen := frozen_onConfig c server schema compiler store journal calls files
  refine ⟨fun hshared => ?_, fun hserved hcarries => ?_⟩
  · have hexecuted := executed_performAll
      (s := onConfig c server schema compiler store journal) (fun x hx => by cases hx)
      ({ files } : WatchedFiles φ) calls
    rw [hshared]
    exact hfrozen.carries hexecuted htables hclosed space
  · exact (hfrozen.prefix_eq htables hserved hcarries).symm

theorem not_carries_of_dump (space : String) (htables : schema.tables.isEmpty = false)
    (hshared : c.tablePrefix c.defaultNamespace ≠ c.tablePrefix space) :
    let initial := onConfig c server schema compiler store journal
    let after := (initial.performAll calls : StateM (WatchedFiles φ) _).run { files }
    (after.2.calls.any fun
      | .write path _ _ => path = store.dumpPath space
      | _ => false) = true →
      ¬after.1.Carries after.2.calls space (c.tablePrefix space) := by
  intro initial after hdump hcarries
  have hfrozen : Frozen initial after.1 after.2.calls :=
    frozen_onConfig c server schema compiler store journal calls files
  obtain ⟨call, hcall, hpath⟩ := List.any_eq_true.1 hdump
  cases call with
  | write path content ok =>
      refine hshared (hfrozen.prefix_eq htables (.inr ⟨content, ok, ?_⟩) hcarries)
      rw [hfrozen.store, show initial.store = store from rfl, ← of_decide_eq_true hpath]
      exact hcall
  | makeDirectories path ok => cases hpath
  | copy source target ok => cases hpath

end Configured

end Session

/-- A valid configuration of three databases. The archive has the prefix of the default one, and
the reports have a prefix of their own. -/
def prefixedConfig : Config where
  version := "1"
  databases := ({} : OrderedMap DatabaseConfig)
    |>.insert "default" { database := "app", tablePrefix := some "lc_" }
    |>.insert "reporting" { database := "reports", tablePrefix := some "rpt_" }
    |>.insert "archive" { database := "old", tablePrefix := some "lc_" }

def zoned : Schema := ({} : Schema).addTable "zone" {}

namespace Session

/-- A dump is written for the archive, and what is in it has the archive's prefix. -/
theorem performAll_prefixed_carries :
    zoned.tables.isEmpty = false ∧ (zoned.isCompiled = false ∨ zoned.ReferentiallyClosed) ∧
      "archive" ≠ prefixedConfig.defaultNamespace ∧
      prefixedConfig.tablePrefix "archive" = "lc_" ∧
      let initial := onConfig prefixedConfig NoServer.unreachable zoned { names := .counting }
        (.ofConfig "" prefixedConfig) []
      let after := (initial.performAll [.importTo (some "reporting"), .exportTo (some "archive") 0] :
        StateM (WatchedFiles FileTree) _).run { files := {} }
      (after.2.calls.any fun
        | .write path _ _ => path = (Store.ofConfig "" prefixedConfig).dumpPath "archive"
        | _ => false) = true ∧
      after.1.Carries after.2.calls "archive" (prefixedConfig.tablePrefix "archive") := by
  refine ⟨by decide, .inl (by decide), by decide, by decide, by decide +kernel, ?_⟩
  exact (performAll_carries_iff prefixedConfig NoServer.unreachable zoned { names := .counting }
    (.ofConfig "" prefixedConfig) [] [.importTo (some "reporting"), .exportTo (some "archive") 0]
    ({} : FileTree) "archive" (by decide) (.inl (by decide))).1 (by decide)

/-- The dump for a namespace is written under the prefix of another. -/
theorem exportTo_prefixed_not_carries :
    prefixedConfig.validate = .ok () ∧ zoned.tables.isEmpty = false ∧ zoned.isCompiled = false ∧
      let initial := onConfig prefixedConfig NoServer.unreachable zoned { names := .counting }
        (.ofConfig "" prefixedConfig) []
      let after := (initial.performAll [.exportTo (some "reporting") 0] :
        StateM (WatchedFiles FileTree) _).run { files := {} }
      ¬after.1.Carries after.2.calls "reporting" (prefixedConfig.tablePrefix "reporting") :=
  ⟨rfl, by decide, by decide,
    not_carries_of_dump prefixedConfig NoServer.unreachable zoned { names := .counting }
      (.ofConfig "" prefixedConfig) [] [.exportTo (some "reporting") 0] ({} : FileTree) "reporting"
      (by decide) (by decide) (by decide +kernel)⟩

end Session

end SchemaDdl
