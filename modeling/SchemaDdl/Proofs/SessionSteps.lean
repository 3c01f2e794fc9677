import SchemaDdl.Proofs.Recompilation
import SchemaDdl.Session

/-!
# What one call does to a session

Of what a session holds, its schema, script, compiler and store are changed by
loading alone. The other operations load first, and what they do beyond that
concerns the gateway, the files and the journal. So each has a lemma of one
form: the session after it is the loaded one, `Same` but for gateway and
journal; its gateway is the old one or what `applied` makes of it; and the files
have a property afterwards if they had it before and writing what the loaded
session holds keeps it.

The last part is a statement about all properties because the files are behind
an interface. It says what was written without a word about what files are.
-/

namespace SchemaDdl

/-- A program on files goes on with what its first part answered. -/
theorem run_bind_of_eq {φ α β : Type} {x : StateM φ α} {files files' : φ} {a : α}
    (h : x.run files = (a, files')) (f : α → StateM φ β) :
    (x >>= f).run files = (f a).run files' := by
  rw [StateT.run_bind, h]
  rfl

/-- A script has statements. -/
theorem Compiler.script_ne_nil {c : Compiler} {s : Schema} {r : Compilation}
    (h : c.compile s = .ok r) : r.script ≠ [] := by
  rw [script_of_compile h, Schema.script, List.append_assoc, List.append_assoc]
  exact List.cons_ne_nil _ _

namespace Session

variable {γ : Type} {s s' s'' : Session γ}

/-- The sessions differ at most in their gateways and journals. -/
structure Same (s s' : Session γ) : Prop where
  schema : s'.schema = s.schema
  script : s'.script = s.script
  compiler : s'.compiler = s.compiler
  store : s'.store = s.store

namespace Same

theorem refl (s : Session γ) : s.Same s := ⟨rfl, rfl, rfl, rfl⟩

theorem trans (h : s.Same s') (h' : s'.Same s'') : s.Same s'' :=
  ⟨h'.schema.trans h.schema, h'.script.trans h.script, h'.compiler.trans h.compiler,
    h'.store.trans h.store⟩

theorem statements (h : s.Same s') : s'.statements = s.statements := by
  rw [Session.statements, Session.statements, h.script]

theorem executable (h : s.Same s') : s'.executable = s.executable := by
  rw [Session.executable, Session.executable, h.statements]

end Same

/-! ## Loading -/

section Loading

variable [Gateway γ]

/-- What a session compiles when it loads. -/
def compilation (s : Session γ) : Except SchemaError Compilation :=
  (s.compiler.withPrefix (Gateway.tablePrefix s.gateway)).compile s.schema

theorem load_of_script (h : s.script ≠ []) : s.load = (.ok (), s) := by
  rw [load, List.isEmpty_eq_false_iff.2 h]
  rfl

theorem load_of_error {e : SchemaError} (h : s.script = []) (hc : s.compilation = .error e) :
    s.load = (.error e,
      { s with compiler := s.compiler.withPrefix (Gateway.tablePrefix s.gateway) }) := by
  rw [compilation] at hc
  rw [load, List.isEmpty_iff.2 h]
  simp only [hc]
  rfl

theorem load_of_ok {c : Compilation} (h : s.script = []) (hc : s.compilation = .ok c) :
    s.load = (.ok (),
      { s with schema := c.schema, script := c.script, compiler := c.compiler }.report
        c.notes) := by
  rw [compilation] at hc
  rw [load, List.isEmpty_iff.2 h]
  simp only [hc]
  rfl

theorem load_gateway (s : Session γ) : s.load.2.gateway = s.gateway := by
  by_cases hscript : s.script = []
  · cases hc : s.compilation with
    | error e => rw [load_of_error hscript hc]
    | ok c =>
        rw [load_of_ok hscript hc]
        rfl
  · rw [load_of_script hscript]

/-- A session has a script exactly if loading it does not fail. -/
theorem load_script_iff (s : Session γ) : s.load.2.script ≠ [] ↔ s.load.1 = .ok () := by
  by_cases hscript : s.script = []
  · cases hc : s.compilation with
    | error e =>
        rw [load_of_error hscript hc]
        exact iff_of_false (not_not_intro hscript) fun h => by cases h
    | ok c =>
        rw [load_of_ok hscript hc]
        exact iff_of_true (Compiler.script_ne_nil hc) rfl
  · rw [load_of_script hscript]
    exact iff_of_true hscript rfl

/-- A schema with tables can be loaded. -/
theorem load_script_of_tables (h : s.schema.tables.isEmpty = false) : s.load.2.script ≠ [] := by
  by_cases hscript : s.script = []
  · obtain ⟨c, hc, -⟩ := (s.compiler.withPrefix (Gateway.tablePrefix s.gateway)).compile_ok h
    rw [load_of_ok hscript hc]
    exact Compiler.script_ne_nil hc
  · rw [load_of_script hscript]
    exact hscript

end Loading

/-! ## What an import does to a gateway -/

section Applying

variable [Gateway γ]

/-- Switches a gateway unless it can stay: whether that went well, and the gateway after it. -/
def moved (g : γ) (stays : Bool) (space : String) : Bool × γ :=
  if stays then (true, g)
  else ((Gateway.switch g space).result.isOk, (Gateway.switch g space).gateway)

/-- What an import does to a gateway, and whether all of it went well. -/
def applied (g : γ) (statements : List String) (target : String) : Bool × γ :=
  let home := Gateway.current g
  let there := moved g (home = target) target
  if there.1 then
    let done := executeFrom { gateway := there.2 } statements
    let back := moved done.gateway (home = target) home
    (done.failure.isNone && back.1, back.2)
  else (false, there.2)

theorem applied_of_refused {g there : γ} {target : String}
    (h : moved g (Gateway.current g = target) target = (false, there)) (statements : List String) :
    applied g statements target = (false, there) := by
  rw [applied, h]
  rfl

theorem applied_of_arrived {g there : γ} {target : String}
    (h : moved g (Gateway.current g = target) target = (true, there)) (statements : List String) :
    applied g statements target =
      ((executeFrom { gateway := there } statements).failure.isNone &&
          (moved (executeFrom { gateway := there } statements).gateway (Gateway.current g = target)
            (Gateway.current g)).1,
        (moved (executeFrom { gateway := there } statements).gateway (Gateway.current g = target)
          (Gateway.current g)).2) := by
  rw [applied, h]
  rfl

/-- What an import reports, and the gateway that it leaves. -/
def imported (s : Session γ) (space : Option String) : Bool × γ :=
  if s.load.2.script = [] then (false, s.gateway)
  else applied s.gateway s.load.2.executable (s.target space)

theorem imported_of_idle (h : s.load.2.script = []) (space : Option String) :
    s.imported space = (false, s.gateway) := if_pos h

theorem imported_of_script (h : s.load.2.script ≠ []) (space : Option String) :
    s.imported space = applied s.gateway s.load.2.executable (s.target space) := if_neg h

theorem switchTo_spec (s : Session γ) (space : String) (note : DatabaseError → Note) :
    ∃ s', s.switchTo space note = ((Gateway.switch s.gateway space).result.isOk, s') ∧
      s.Same s' ∧ s'.gateway = (Gateway.switch s.gateway space).gateway := by
  unfold switchTo
  dsimp only
  cases (Gateway.switch s.gateway space).result with
  | ok u => exact ⟨_, rfl, ⟨rfl, rfl, rfl, rfl⟩, rfl⟩
  | error e => exact ⟨_, rfl, ⟨rfl, rfl, rfl, rfl⟩, rfl⟩

theorem enter_spec (s : Session γ) (space : String) :
    ∃ arrived s', s.enter space = (arrived, s') ∧ s.Same s' ∧
      (arrived, s'.gateway) = moved s.gateway (Gateway.current s.gateway = space) space := by
  unfold enter moved
  by_cases h : Gateway.current s.gateway = space
  · rw [if_pos h, if_pos (decide_eq_true h)]
    exact ⟨true, s, rfl, Same.refl s, rfl⟩
  · rw [if_neg h, if_neg (by simpa using h)]
    obtain ⟨s', hs', hsame, hgateway⟩ := s.switchTo_spec space (.switchFailed space)
    exact ⟨_, s', hs', hsame, by rw [hgateway]⟩

theorem leave_spec (s : Session γ) (space home : String) :
    ∃ returned s', s.leave space home = (returned, s') ∧ s.Same s' ∧
      (returned, s'.gateway) = moved s.gateway (home = space) home := by
  unfold leave moved
  by_cases h : home = space
  · rw [if_pos h, if_pos (decide_eq_true h)]
    exact ⟨true, s, rfl, Same.refl s, rfl⟩
  · rw [if_neg h, if_neg (by simpa using h)]
    obtain ⟨s', hs', hsame, hgateway⟩ := s.switchTo_spec home (.restoreFailed home)
    exact ⟨_, s', hs', hsame, by rw [hgateway]⟩

theorem executeScript_spec (s : Session γ) (space : String) :
    ∃ s', s.executeScript space = (executeFrom { gateway := s.gateway } s.executable, s') ∧
      s.Same s' ∧ s'.gateway = (executeFrom { gateway := s.gateway } s.executable).gateway := by
  unfold executeScript
  dsimp only
  cases (executeFrom { gateway := s.gateway } s.executable).failure with
  | none => exact ⟨_, rfl, ⟨rfl, rfl, rfl, rfl⟩, rfl⟩
  | some e => exact ⟨_, rfl, ⟨rfl, rfl, rfl, rfl⟩, rfl⟩

end Applying

/-! ## Building, importing and exporting -/

section Running

variable {φ : Type} [FileAccess (StateM φ)] {files files' files'' : φ}

/-- Writing what the session holds keeps a property of the files. -/
structure Tolerates (s : Session γ) (P : φ → Prop) : Prop where
  save : ∀ space backup files, P files →
    P ((s.store.save s.schema space backup : StateM φ _).run files).2
  dump : ∀ space seconds files, P files →
    P ((s.store.writeDump space s.statements seconds : StateM φ _).run files).2

theorem Same.tolerates {P : φ → Prop} (h : s.Same s') (hP : s.Tolerates P) : s'.Tolerates P := by
  refine ⟨?_, ?_⟩
  · rw [h.schema, h.store]
    exact hP.save
  · rw [h.statements, h.store]
    exact hP.dump

variable [Gateway γ]

/-- A session and its files after a call, gateway and journal aside. -/
structure Ran (s : Session γ) (files : φ) (s' : Session γ) (files' : φ) : Prop where
  same : s.load.2.Same s'
  kept : ∀ P : φ → Prop, (s.load.2.script ≠ [] → s.load.2.Tolerates P) → P files → P files'

theorem Ran.same_after (h : s.Ran files s' files') (hsame : s'.Same s'') : s.Ran files s'' files' :=
  ⟨h.same.trans hsame, h.kept⟩

/-- A call behind another, on a session that the first left with a script. -/
theorem Ran.trans (h : s.Ran files s' files') (hscript : s'.script ≠ [])
    (h' : s'.Ran files' s'' files'') : s.Ran files s'' files'' := by
  obtain ⟨hsame', hkept'⟩ := h'
  rw [load_of_script hscript] at hsame' hkept'
  refine ⟨h.same.trans hsame', fun P hP hfiles => ?_⟩
  exact hkept' P (fun hne => h.same.tolerates (hP (h.same.script ▸ hne))) (h.kept P hP hfiles)

theorem build_run (s : Session γ) (space : Option String) (backup : Bool) (files : φ) :
    ∃ done s' files', (s.build space backup : StateM φ _).run files = ((done, s'), files') ∧
      s.Ran files s' files' ∧ s'.gateway = s.gateway := by
  rw [← s.load_gateway]
  have hscript := s.load_script_iff
  rcases hload : s.load with ⟨e | _, t⟩
  · refine ⟨false, t.report [.compileFailed e], files, ?_, ⟨?_, fun P _ h => h⟩, rfl⟩
    · rw [build, hload]
      rfl
    · rw [hload]
      exact ⟨rfl, rfl, rfl, rfl⟩
  · rw [hload] at hscript
    rcases hsave : (t.store.save t.schema (t.target space) backup : StateM φ _).run files with
      ⟨⟨result, notes⟩, files'⟩
    have hkept : ∀ P : φ → Prop, (s.load.2.script ≠ [] → s.load.2.Tolerates P) →
        P files → P files' := by
      intro P hP hfiles
      rw [hload] at hP
      have h := (hP (hscript.2 rfl)).save (t.target space) backup files hfiles
      rwa [hsave] at h
    rw [build, hload]
    dsimp only
    rw [run_bind_of_eq hsave]
    cases result with
    | error e => exact ⟨_, _, _, rfl, ⟨by rw [hload]; exact ⟨rfl, rfl, rfl, rfl⟩, hkept⟩, rfl⟩
    | ok u => exact ⟨_, _, _, rfl, ⟨by rw [hload]; exact ⟨rfl, rfl, rfl, rfl⟩, hkept⟩, rfl⟩

theorem importTo_run (s : Session γ) (space : Option String) (files : φ) :
    ∃ done s' files', (s.importTo space : StateM φ _).run files = ((done, s'), files') ∧
      s.Ran files s' files' ∧ (done, s'.gateway) = s.imported space := by
  obtain ⟨built, s₁, files₁, hbuild, hran₁, hgateway₁⟩ :=
    s.build_run (some (s.target space)) false files
  rw [importTo, imported, run_bind_of_eq hbuild, ← hran₁.same.script, ← hran₁.same.executable,
    ← hgateway₁]
  dsimp only
  by_cases hscript : s₁.script = []
  · rw [if_pos (List.isEmpty_iff.2 hscript), if_pos hscript]
    exact ⟨false, s₁, files₁, rfl, hran₁, rfl⟩
  · rw [if_neg (mt List.isEmpty_iff.1 hscript), if_neg hscript]
    obtain ⟨arrived, s₂, henter, hsame₂, hmoved₂⟩ := s₁.enter_spec (s.target space)
    rw [henter, applied, ← hmoved₂]
    cases arrived with
    | false => exact ⟨false, s₂, files₁, rfl, hran₁.same_after hsame₂, rfl⟩
    | true =>
        obtain ⟨s₃, hexecute, hsame₃, hgateway₃⟩ := s₂.executeScript_spec (s.target space)
        obtain ⟨returned, s₄, hleave, hsame₄, hmoved₄⟩ :=
          s₃.leave_spec (s.target space) (Gateway.current s₁.gateway)
        have hsame := (hsame₂.trans hsame₃).trans hsame₄
        obtain ⟨built', s₅, files₅, hbuild', hran₅, hgateway₅⟩ :=
          s₄.build_run (some (s.target space)) true files₁
        have hran := (hran₁.same_after hsame).trans (hsame.script ▸ hscript) hran₅
        rw [hsame₂.executable] at hexecute hgateway₃
        dsimp only
        rw [if_pos rfl, ← hgateway₃, ← hmoved₄, hexecute]
        dsimp only
        rw [hleave]
        dsimp only
        rw [run_bind_of_eq hbuild', ← hgateway₅]
        dsimp only
        split
        · next hdone =>
            exact ⟨true, _, files₅, rfl, hran.same_after ⟨rfl, rfl, rfl, rfl⟩, by rw [hdone]; rfl⟩
        · next hdone =>
            exact ⟨false, s₅, files₅, rfl, hran, by rw [Bool.eq_false_iff.2 hdone]⟩

theorem importTo_imported (s : Session γ) (space : Option String) (files : φ) :
    (((s.importTo space : StateM φ _).run files).1.1,
      ((s.importTo space : StateM φ _).run files).1.2.gateway) = s.imported space := by
  obtain ⟨done, s', files', hrun, -, hdone⟩ := s.importTo_run space files
  rw [hrun]
  exact hdone

theorem exportTo_run (s : Session γ) (space : Option String) (seconds : Int) (files : φ) :
    ∃ done s' files', (s.exportTo space seconds : StateM φ _).run files = ((done, s'), files') ∧
      s.Ran files s' files' ∧ s'.gateway = s.gateway := by
  obtain ⟨built, s₁, files₁, hbuild, hran₁, hgateway₁⟩ :=
    s.build_run (some (s.target space)) false files
  rw [exportTo, run_bind_of_eq hbuild]
  dsimp only
  by_cases hscript : s₁.script = []
  · rw [if_pos (List.isEmpty_iff.2 hscript)]
    exact ⟨false, s₁, files₁, rfl, hran₁, hgateway₁⟩
  · rw [if_neg (mt List.isEmpty_iff.1 hscript)]
    rcases hdump : (s₁.store.writeDump (s.target space) s₁.statements seconds :
      StateM φ _).run files₁ with ⟨⟨result, notes⟩, files₂⟩
    have hkept : ∀ P : φ → Prop, (s.load.2.script ≠ [] → s.load.2.Tolerates P) →
        P files → P files₂ := by
      intro P hP hfiles
      have htolerates := hran₁.same.tolerates (hP (hran₁.same.script ▸ hscript))
      have h := htolerates.dump (s.target space) seconds files₁ (hran₁.kept P hP hfiles)
      rwa [hdump] at h
    have hsame := hran₁.same
    rw [run_bind_of_eq hdump]
    cases result with
    | error e =>
        exact ⟨_, _, _, rfl, ⟨hsame.trans ⟨rfl, rfl, rfl, rfl⟩, hkept⟩, hgateway₁⟩
    | ok u => exact ⟨_, _, _, rfl, ⟨hsame.trans ⟨rfl, rfl, rfl, rfl⟩, hkept⟩, hgateway₁⟩

end Running

end Session

end SchemaDdl
