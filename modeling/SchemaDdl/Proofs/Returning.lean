import SchemaDdl.Database.Configured
import SchemaDdl.Files.Tree
import SchemaDdl.Proofs.Importing

/-!
# When an import comes back

The gateway of a configuration can be switched to the namespaces that have a
database, and starts on the default one, whether that has a database or not. For
another target the gateway is switched there and switched back, so it comes back
exactly if the namespace that it left has a database. If not, everything may
have been executed and still the import reports a failure, and the gateway stays
on the target.
-/

namespace SchemaDdl

/-! ## What a gateway keeps -/

namespace ConfiguredGateway

variable {σ : Type}

/-- Both gateways are on the same namespace of the same configuration. -/
structure SamePlace (g g' : ConfiguredGateway σ) : Prop where
  config : g'.config = g.config
  current : g'.current = g.current

theorem SamePlace.refl (g : ConfiguredGateway σ) : g.SamePlace g := ⟨rfl, rfl⟩

theorem SamePlace.trans {g g' g'' : ConfiguredGateway σ} (h : g.SamePlace g')
    (h' : g'.SamePlace g'') : g.SamePlace g'' :=
  ⟨h'.config.trans h.config, h'.current.trans h.current⟩

/-- The namespace that the gateway is on is a target, or can be switched to again. -/
def CanReturn (g : ConfiguredGateway σ) (target : String) : Prop :=
  g.current = target ∨ g.config.databases.contains g.current = true

theorem switch_of_configured {g : ConfiguredGateway σ} {space : String}
    (h : g.config.databases.contains space = true) :
    g.switch space =
      { result := .ok ()
        gateway := { g with current := space }
        notes := [.switchingNamespace g.current space] } := if_pos h

theorem switch_of_unknown {g : ConfiguredGateway σ} {space : String}
    (h : g.config.databases.contains space = false) :
    g.switch space = { result := .error (.unknownNamespace space), gateway := g } :=
  if_neg (Bool.eq_false_iff.1 h)

variable [Server σ]

theorem connect_samePlace (g : ConfiguredGateway σ) : g.SamePlace g.connect.gateway := by
  unfold connect
  split
  · exact .refl g
  · split
    · exact .refl g
    · dsimp only
      split <;> exact ⟨rfl, rfl⟩

theorem execute_samePlace (g : ConfiguredGateway σ) (statement : String) :
    g.SamePlace (g.execute statement).gateway := by
  unfold execute
  dsimp only
  split
  · exact g.connect_samePlace
  · exact g.connect_samePlace.trans ⟨rfl, rfl⟩

end ConfiguredGateway

/-! ## There and back -/

namespace Session

open ConfiguredGateway

variable {σ : Type} [Server σ]

theorem executeFrom_samePlace (done : Execution (ConfiguredGateway σ)) (statements : List String) :
    done.gateway.SamePlace (executeFrom done statements).gateway := by
  induction statements generalizing done with
  | nil => exact .refl _
  | cons statement r ih =>
      have hexecute := done.gateway.execute_samePlace statement
      cases h : (Gateway.execute done.gateway statement).result with
      | error e =>
          rw [executeFrom_of_error h]
          exact hexecute
      | ok u =>
          rw [executeFrom_of_ok h]
          exact SamePlace.trans hexecute (ih { done with gateway := _, applied := _, notes := _ })

/-- The way to a target that has a database. -/
theorem moved_there {g : ConfiguredGateway σ} {target : String}
    (h : g.config.databases.contains target = true) :
    moved g (g.current = target) target = (true, { g with current := target }) := by
  by_cases hhome : g.current = target
  · rw [decide_eq_true hhome, ← hhome]
    rfl
  · have hswitch : Gateway.switch g target = _ := switch_of_configured h
    rw [decide_eq_false hhome, moved, hswitch]
    rfl

/-- The way back from a target. -/
theorem moved_back {g there : ConfiguredGateway σ} {target : String}
    (h : { g with current := target }.SamePlace there) :
    ((moved there (g.current = target) g.current).1 = true ↔ g.CanReturn target) ∧
      ((moved there (g.current = target) g.current).2.current = g.current ↔
        g.CanReturn target) := by
  by_cases hhome : g.current = target
  · rw [decide_eq_true hhome]
    exact ⟨iff_of_true rfl (.inl hhome), iff_of_true (h.current.trans hhome.symm) (.inl hhome)⟩
  · rw [decide_eq_false hhome, moved, if_neg Bool.false_ne_true]
    cases hcontains : g.config.databases.contains g.current with
    | true =>
        have hswitch : Gateway.switch there g.current = _ :=
          switch_of_configured (h.config ▸ hcontains)
        rw [hswitch]
        exact ⟨iff_of_true rfl (.inr hcontains), iff_of_true rfl (.inr hcontains)⟩
    | false =>
        have hswitch : Gateway.switch there g.current = _ :=
          switch_of_unknown (h.config ▸ hcontains)
        have hstays : ¬g.CanReturn target := by
          rintro (h | h)
          · exact hhome h
          · rw [hcontains] at h
            cases h
        rw [hswitch]
        refine ⟨iff_of_false Bool.false_ne_true hstays, iff_of_false (fun hcurrent => ?_) hstays⟩
        exact hhome (hcurrent.symm.trans h.current)

theorem applied_returns (g : ConfiguredGateway σ) (statements : List String) {target : String}
    (h : g.config.databases.contains target = true) :
    ((applied g statements target).2.current = g.current ↔ g.CanReturn target) ∧
      ((applied g statements target).1 = true ↔
        (executeFrom { gateway := { g with current := target } } statements).failure = none ∧
          g.CanReturn target) := by
  have hplace := executeFrom_samePlace { gateway := { g with current := target } } statements
  obtain ⟨hok, hcurrent⟩ := moved_back hplace
  rw [applied_of_arrived (moved_there h)]
  refine ⟨hcurrent, ?_⟩
  rw [Bool.and_eq_true, Option.isNone_iff_eq_none]
  exact and_congr_right' hok

/-! ## Imports at the gateway of a configuration -/

section Records

variable {γ : Type} [Gateway γ] {statements : List String} {target : String}

theorem execute_mem_calls_moved {w : Watched γ} {stays ok : Bool} {space space' x : String} :
    .execute space x ok ∈ (moved w stays space').2.calls ↔ .execute space x ok ∈ w.calls := by
  cases stays with
  | true => rfl
  | false =>
      rw [calls_moved, List.mem_append, List.mem_singleton]
      exact or_iff_left fun h => by cases h

/-- The record holds a failed execution exactly if executing the statements ended in a failure. -/
theorem none_failed_iff {w there : Watched γ} (hw : w.calls = [])
    (hthere : moved w (Gateway.current w = target) target = (true, there)) :
    (∀ space x, .execute space x false ∉ (applied w statements target).2.calls) ↔
      (executeFrom { gateway := there.gateway } statements).failure = none := by
  have hunwatched : executeFrom { gateway := there.gateway } statements = _ :=
    executeFrom_unwatched { gateway := there } statements
  obtain ⟨calls, hcalls, hruns⟩ := runs_executeFrom { gateway := there } statements rfl
  have hway : ∀ space x, .execute space x false ∉ there.calls := by
    intro space x h
    rw [← show (moved w (Gateway.current w = target) target).2 = there by rw [hthere],
      execute_mem_calls_moved, hw] at h
    cases h
  rw [applied_of_arrived hthere, hunwatched]
  simp only [execute_mem_calls_moved, hcalls, List.mem_append, hway, false_or]
  exact hruns.ok_iff_none_failed.symm.trans Option.isNone_iff_eq_none

end Records

variable {s : Session (ConfiguredGateway σ)} {target : String}

/-- Whether an import returns, whether the record holds a failed execution, and what is reported. -/
theorem imported_returns (htables : s.schema.tables.isEmpty = false)
    (htarget : s.gateway.config.databases.contains target = true) :
    ((s.imported (some target)).2.current = s.gateway.current ↔ s.gateway.CanReturn target) ∧
      ((∀ space x, .execute space x false ∉ (s.watched.imported (some target)).2.calls) ↔
        (executeFrom { gateway := { s.gateway with current := target } }
          s.load.2.executable).failure = none) ∧
      ((s.imported (some target)).1 = true ↔
        (executeFrom { gateway := { s.gateway with current := target } }
          s.load.2.executable).failure = none ∧ s.gateway.CanReturn target) := by
  have hscript := load_script_of_tables htables
  have hscript' : s.watched.load.2.script ≠ [] := by rw [s.watched_load]; exact hscript
  have hthere := moved_unwatched s.watched.gateway (s.gateway.current = target) target
  rw [show s.watched.gateway.gateway = s.gateway from rfl, moved_there htarget,
    Prod.mk.injEq] at hthere
  rw [imported_of_script hscript, imported_of_script hscript', s.watched_load, hthere.2]
  obtain ⟨hcurrent, hdone⟩ := applied_returns s.gateway s.load.2.executable htarget
  rw [hthere.2] at hdone
  exact ⟨hcurrent, none_failed_iff rfl (Prod.ext hthere.1.symm rfl), hdone⟩

/-- An import into a namespace that has a database returns to where it started exactly if it started
there or where there is a database too; and if all went well that was executed, it reports so on the
same condition. -/
theorem importTo_returns_iff {φ : Type} [FileAccess (StateM φ)] (files : φ)
    (htables : s.schema.tables.isEmpty = false)
    (htarget : s.gateway.config.databases.contains target = true) :
    let plain := ((s.importTo (some target) : StateM φ _).run files).1
    let watched := ((s.watched.importTo (some target) : StateM φ _).run files).1
    (plain.2.gateway.current = s.gateway.current ↔ s.gateway.CanReturn target) ∧
      ((∀ space x, .execute space x false ∉ watched.2.gateway.calls) →
        (plain.1 = true ↔ s.gateway.CanReturn target)) := by
  obtain ⟨hcurrent, hnone, hdone⟩ := imported_returns htables htarget
  have hplain := Prod.ext_iff.1 (s.importTo_imported (some target) files)
  have hwatched := Prod.ext_iff.1 (s.watched.importTo_imported (some target) files)
  dsimp only at hplain hwatched ⊢
  rw [hplain.1, hplain.2, hwatched.2]
  exact ⟨hcurrent, fun h => hdone.trans (and_iff_right (hnone.1 h))⟩

end Session

/-! ## A default namespace without a database -/

/-- The server that accepts every connection and every statement. -/
inductive WillingServer where
  | willing
deriving DecidableEq

instance : Server WillingServer where
  connect s _ := (.ok (), s)
  run s _ _ := (.ok (), s)

namespace ConfiguredGateway

theorem connect_willing {g : ConfiguredGateway WillingServer}
    (h : g.config.databases.contains g.current = true) : g.connect.result = .ok () := by
  obtain ⟨d, hd⟩ := OrderedMap.mem_keys_iff.1 (OrderedMap.contains_iff.1 h)
  unfold connect
  rw [hd]
  split <;> rfl

theorem execute_willing {g : ConfiguredGateway WillingServer}
    (h : g.config.databases.contains g.current = true) (statement : String) :
    (g.execute statement).result = .ok () := by
  unfold execute
  dsimp only
  rw [connect_willing h]
  rfl

end ConfiguredGateway

namespace Session

open ConfiguredGateway

theorem executeFrom_willing {done : Execution (ConfiguredGateway WillingServer)}
    (h : done.gateway.config.databases.contains done.gateway.current = true)
    (hdone : done.failure = none) (statements : List String) :
    (executeFrom done statements).failure = none := by
  induction statements generalizing done with
  | nil => exact hdone
  | cons statement r ih =>
      have hplace : done.gateway.SamePlace (Gateway.execute done.gateway statement).gateway :=
        done.gateway.execute_samePlace statement
      rw [executeFrom_of_ok (execute_willing h statement)]
      refine ih ?_ hdone
      dsimp only
      rw [hplace.config, hplace.current]
      exact h

/-- An import that cannot return does not, whatever succeeded. -/
theorem importTo_willing_stays {φ : Type} [FileAccess (StateM φ)] (files : φ)
    {s : Session (ConfiguredGateway WillingServer)} {target : String}
    (htables : s.schema.tables.isEmpty = false)
    (htarget : s.gateway.config.databases.contains target = true)
    (hstays : ¬s.gateway.CanReturn target) :
    let plain := ((s.importTo (some target) : StateM φ _).run files).1
    let watched := ((s.watched.importTo (some target) : StateM φ _).run files).1
    (∀ space x, .execute space x false ∉ watched.2.gateway.calls) ∧ plain.1 = false ∧
      plain.2.gateway.current ≠ s.gateway.current := by
  obtain ⟨hcurrent, hnone, hdone⟩ := imported_returns htables htarget
  have hplain := Prod.ext_iff.1 (s.importTo_imported (some target) files)
  have hwatched := Prod.ext_iff.1 (s.watched.importTo_imported (some target) files)
  dsimp only at hplain hwatched ⊢
  rw [hplain.1, hplain.2, hwatched.2]
  refine ⟨hnone.2 (executeFrom_willing htarget rfl _), ?_, mt hcurrent.1 hstays⟩
  exact Bool.eq_false_iff.2 fun h => hstays (hdone.1 h).2

end Session

/-- A valid configuration with a database, but none for its default namespace. -/
def homelessConfig : Config where
  version := "1"
  databases := ({} : OrderedMap DatabaseConfig).insert "reporting" { database := "reports" }

def homelessSession : Session (ConfiguredGateway WillingServer) where
  schema := ({} : Schema).addTable "zone" {}
  compiler := { names := .counting }
  store := .ofConfig "" homelessConfig
  gateway := .ofConfig homelessConfig .willing

namespace Session

theorem importTo_homeless_returns_iff :
    homelessSession.schema.tables.isEmpty = false ∧
      homelessSession.gateway.config.databases.contains "reporting" = true ∧
      let plain := ((homelessSession.importTo (some "reporting") : StateM FileTree _).run {}).1
      let watched :=
        ((homelessSession.watched.importTo (some "reporting") : StateM FileTree _).run {}).1
      (plain.2.gateway.current = homelessSession.gateway.current ↔
          homelessSession.gateway.CanReturn "reporting") ∧
        ((∀ space x, .execute space x false ∉ watched.2.gateway.calls) →
          (plain.1 = true ↔ homelessSession.gateway.CanReturn "reporting")) :=
  ⟨rfl, rfl, importTo_returns_iff ({} : FileTree) rfl rfl⟩

/-- Nothing fails that is executed; still the import reports a failure, and the gateway stays. -/
theorem importTo_homeless_stays :
    homelessConfig.validate = .ok () ∧ homelessSession.schema.tables.isEmpty = false ∧
      homelessSession.gateway = .ofConfig homelessConfig .willing ∧
      homelessConfig.databases.contains "reporting" = true ∧
      let plain := ((homelessSession.importTo (some "reporting") : StateM FileTree _).run {}).1
      let watched :=
        ((homelessSession.watched.importTo (some "reporting") : StateM FileTree _).run {}).1
      (∀ space x, .execute space x false ∉ watched.2.gateway.calls) ∧ plain.1 = false ∧
        plain.2.gateway.current ≠ homelessSession.gateway.current := by
  have hstays : ¬homelessSession.gateway.CanReturn "reporting" := by
    rintro (h | h)
    · revert h
      decide
    · revert h
      decide
  exact ⟨rfl, rfl, rfl, rfl, importTo_willing_stays ({} : FileTree) rfl rfl hstays⟩

end Session

end SchemaDdl
