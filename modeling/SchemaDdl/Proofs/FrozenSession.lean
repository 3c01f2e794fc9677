import SchemaDdl.Proofs.DumpTexts
import SchemaDdl.Proofs.SessionSteps

/-!
# A session compiles once

Files are behind an interface as the gateway is, so they can be watched the same
way: `WatchedFiles` pass every request on and record those that may change
something. What a session writes is then a statement about the record, whatever
the files answer, and a program at watched files `Mirrors` the one at the files.

A session is asked to load, build, import and export, in any order and any
number of times. It is in one of two states all the time (`Frozen`). At first it
holds the schema that it was given and has written nothing. From the first call
that can compile the schema on it holds the one compilation, made with the
prefix that the gateway had then, and everything written is made from that: an
artifact is the text of the compiled schema, and a dump holds its statements and
nothing else behind the header.
-/

namespace SchemaDdl

/-! ## Watched files -/

/-- A request that may change files, and whether it succeeded. -/
inductive FileCall where
  | makeDirectories (path : String) (succeeded : Bool)
  | write (path content : String) (succeeded : Bool)
  | copy (source target : String) (succeeded : Bool)
deriving DecidableEq

structure WatchedFiles (φ : Type) where
  files : φ
  calls : List FileCall := []

namespace WatchedFiles

section Mirrors

variable {φ α β : Type}

/-- Passes a request on and records it with what came of it. -/
def pass (x : StateM φ α) (record : α → List FileCall) : StateM (WatchedFiles φ) α := fun w =>
  let (a, files) := x.run w.files
  (a, ⟨files, w.calls ++ record a⟩)

/-- A program does at watched files what another does at the files. -/
def Mirrors (x : StateM (WatchedFiles φ) α) (y : StateM φ α) : Prop :=
  ∀ w, y.run w.files = ((x.run w).1, (x.run w).2.files)

theorem Mirrors.bind {x : StateM (WatchedFiles φ) α} {y : StateM φ α}
    {f : α → StateM (WatchedFiles φ) β} {g : α → StateM φ β} (h : Mirrors x y)
    (hf : ∀ a, Mirrors (f a) (g a)) : Mirrors (x >>= f) (y >>= g) := by
  intro w
  rw [run_bind_of_eq (h w)]
  exact hf _ _

end Mirrors

variable {φ : Type} [FileAccess (StateM φ)]

instance : FileAccess (StateM (WatchedFiles φ)) where
  isPresent path := pass (FileAccess.isPresent path) fun _ => []
  read path := pass (FileAccess.read path) fun _ => []
  write path content := pass (FileAccess.write path content) fun r => [.write path content r.isOk]
  makeDirectories path :=
    pass (FileAccess.makeDirectories path) fun r => [.makeDirectories path r.isOk]
  copy source target := pass (FileAccess.copy source target) fun r => [.copy source target r.isOk]

/-! ### Watching changes nothing -/

theorem write_run (path content : String) (w : WatchedFiles φ) :
    ∃ r files, (FileAccess.write path content : StateM (WatchedFiles φ) _).run w =
      (r, ⟨files, w.calls ++ [.write path content r.isOk]⟩) := ⟨_, _, rfl⟩

theorem makeDirectories_run (path : String) (w : WatchedFiles φ) :
    ∃ r files, (FileAccess.makeDirectories path : StateM (WatchedFiles φ) _).run w =
      (r, ⟨files, w.calls ++ [.makeDirectories path r.isOk]⟩) := ⟨_, _, rfl⟩

theorem copy_run (source target : String) (w : WatchedFiles φ) :
    ∃ r files, (FileAccess.copy source target : StateM (WatchedFiles φ) _).run w =
      (r, ⟨files, w.calls ++ [.copy source target r.isOk]⟩) := ⟨_, _, rfl⟩

/-- A write whose failure is reported with the path. -/
theorem reported_write_run (path content : String) (w : WatchedFiles φ) :
    ∃ (r : Except FileError Unit) (files : φ),
      (FileAccess.write path content >>= fun
        | .ok () => pure (.ok ())
        | .error cause => pure (.error (.write path cause)) : StateM (WatchedFiles φ) _).run w =
          (r, ⟨files, w.calls ++ [.write path content r.isOk]⟩) := by
  obtain ⟨r, files, h⟩ := write_run path content w
  rw [run_bind_of_eq h]
  cases r with
  | error cause => exact ⟨_, _, rfl⟩
  | ok u => exact ⟨_, _, rfl⟩

/-- A file is written after directories are made for it, unless one of them cannot be made. -/
theorem store_run {P : List FileCall → Prop}
    (hP : ∀ calls path ok, P calls → P (calls ++ [.makeDirectories path ok]))
    (path content : String) {w : WatchedFiles φ} (hw : P w.calls) :
    ∃ r files calls,
      (FileAccess.store path content : StateM (WatchedFiles φ) _).run w = (r, ⟨files, calls⟩) ∧
        (r.isOk = false ∧ P calls ∨
          ∃ before, P before ∧ calls = before ++ [.write path content r.isOk]) := by
  unfold FileAccess.store
  cases Path.parent? path with
  | none =>
      obtain ⟨r, files, h⟩ := reported_write_run path content w
      exact ⟨r, files, _, h, .inr ⟨_, hw, rfl⟩⟩
  | some parent =>
      obtain ⟨r, files, h⟩ := makeDirectories_run parent w
      dsimp only
      rw [run_bind_of_eq h]
      cases r with
      | error cause => exact ⟨_, _, _, rfl, .inl ⟨rfl, hP _ _ _ hw⟩⟩
      | ok u =>
          obtain ⟨r, files, h⟩ :=
            reported_write_run path content ⟨files, w.calls ++ [.makeDirectories parent true]⟩
          exact ⟨r, files, _, h, .inr ⟨_, hP _ _ _ hw, rfl⟩⟩

end WatchedFiles

/-! ## Writing one schema and one script -/

/-- The record of writing nothing but artifacts of a schema and dumps of statements. -/
inductive KeptTo (store : Store) (schema : Schema) (statements : List String) :
    List FileCall → Prop where
  | start : KeptTo store schema statements []
  | directories {calls : List FileCall} (path : String) (succeeded : Bool) :
    KeptTo store schema statements calls →
    KeptTo store schema statements (calls ++ [.makeDirectories path succeeded])
  | artifact {calls : List FileCall} (space : String) (succeeded : Bool) :
    KeptTo store schema statements calls →
    KeptTo store schema statements
      (calls ++ [.write (store.artifactPath space) schema.artifactText succeeded])
  /-- A backup is a copy of the artifact that was written right before. -/
  | backup {calls : List FileCall} (space : String) (succeeded : Bool) :
    KeptTo store schema statements calls →
    KeptTo store schema statements
      (calls ++ [.write (store.artifactPath space) schema.artifactText true,
        .copy (store.artifactPath space) (store.backupPath space) succeeded])
  /-- A dump is the one of some moment, and it consists of a header and the statements. -/
  | dump {calls : List FileCall} {content : String} (space : String) (seconds : Int)
    (succeeded : Bool) :
    content = dumpText statements seconds → IsDump statements content →
    KeptTo store schema statements calls →
    KeptTo store schema statements (calls ++ [.write (store.dumpPath space) content succeeded])

section Writing

variable {φ : Type} [FileAccess (StateM φ)] {store : Store} {schema : Schema}
  {statements : List String} {w : WatchedFiles φ}

theorem Store.saveBackup_run (store : Store) (space : String) (w : WatchedFiles φ) :
    ∃ r files, (store.saveBackup space : StateM (WatchedFiles φ) _).run w =
      (r, ⟨files, w.calls ++
        [.copy (store.artifactPath space) (store.backupPath space) r.1.isOk]⟩) := by
  obtain ⟨r, files, h⟩ :=
    WatchedFiles.copy_run (store.artifactPath space) (store.backupPath space) w
  unfold saveBackup FileAccess.duplicate
  dsimp only
  rw [bind_assoc, run_bind_of_eq h]
  cases r with
  | error cause => exact ⟨_, _, rfl⟩
  | ok u => exact ⟨_, _, rfl⟩

theorem KeptTo.save (h : KeptTo store schema statements w.calls) (space : String) (backup : Bool) :
    KeptTo store schema statements
      ((store.save schema space backup : StateM (WatchedFiles φ) _).run w).2.calls := by
  obtain ⟨r, files, calls, hrun, hcalls⟩ := WatchedFiles.store_run (fun _ _ _ => .directories _ _)
    (store.artifactPath space) schema.artifactText h
  unfold Store.save
  dsimp only
  rw [run_bind_of_eq hrun]
  cases r with
  | error e =>
      obtain ⟨-, hkept⟩ | ⟨before, hbefore, rfl⟩ := hcalls
      · exact hkept
      · exact hbefore.artifact space false
  | ok u =>
      obtain ⟨hfailed, -⟩ | ⟨before, hbefore, rfl⟩ := hcalls
      · cases hfailed
      · cases backup with
        | false => exact hbefore.artifact space true
        | true =>
            obtain ⟨r, files', hbackup⟩ := store.saveBackup_run space (φ := φ) ⟨files, before ++ _⟩
            dsimp only
            rw [if_pos rfl, run_bind_of_eq hbackup]
            have hkept := hbefore.backup space r.1.isOk
            rw [List.append_cons] at hkept
            exact hkept

theorem KeptTo.writeDump (h : KeptTo store schema statements w.calls) (space : String)
    (seconds : Int) :
    KeptTo store schema statements
      ((store.writeDump space statements seconds : StateM (WatchedFiles φ) _).run w).2.calls := by
  obtain ⟨r, files, calls, hrun, hcalls⟩ := WatchedFiles.store_run (fun _ _ _ => .directories _ _)
    (store.dumpPath space) (dumpText statements seconds) h
  unfold Store.writeDump
  dsimp only
  rw [run_bind_of_eq hrun]
  have hkept : KeptTo store schema statements calls := by
    obtain ⟨-, hkept⟩ | ⟨before, hbefore, rfl⟩ := hcalls
    · exact hkept
    · exact .dump space seconds r.isOk rfl (isDump_dumpText statements seconds) hbefore
  cases r with
  | error e => exact hkept
  | ok u => exact hkept

end Writing

/-! ## Sequences of calls -/

/-- What a session can be asked to do. -/
inductive SessionCall where
  | load
  | build (space : Option String) (backup : Bool)
  | importTo (space : Option String)
  | exportTo (space : Option String) (seconds : Int)
deriving DecidableEq

namespace Session

variable {γ : Type} [Gateway γ]

section Performing

variable {m : Type → Type} [Monad m] [FileAccess m]

/-- The session after a call, whatever the call answered. -/
def perform (s : Session γ) : SessionCall → m (Session γ)
  | .load => return s.load.2
  | .build space backup => return (← s.build space backup).2
  | .importTo space => return (← s.importTo space).2
  | .exportTo space seconds => return (← s.exportTo space seconds).2

def performAll (s : Session γ) (calls : List SessionCall) : m (Session γ) := calls.foldlM perform s

end Performing

section Steps

variable {φ : Type} [FileAccess (StateM φ)]

theorem load_ran (s : Session γ) (files : φ) : s.Ran files s.load.2 files :=
  ⟨Same.refl _, fun _ _ h => h⟩

/-- A call loads the session, and only an import does something to the gateway. -/
theorem perform_run (s : Session γ) (call : SessionCall) (files : φ) :
    ∃ s' files', (s.perform call : StateM φ _).run files = (s', files') ∧ s.Ran files s' files' ∧
      (s'.gateway = s.gateway ∨ ∃ space, s'.gateway = (s.imported space).2) := by
  cases call with
  | load => exact ⟨_, _, rfl, s.load_ran files, .inl s.load_gateway⟩
  | build space backup =>
      obtain ⟨done, s', files', hrun, hran, hgateway⟩ := s.build_run space backup files
      exact ⟨s', files', run_bind_of_eq hrun _, hran, .inl hgateway⟩
  | importTo space =>
      obtain ⟨done, s', files', hrun, hran, hdone⟩ := s.importTo_run space files
      exact ⟨s', files', run_bind_of_eq hrun _, hran, .inr ⟨space, congrArg Prod.snd hdone⟩⟩
  | exportTo space seconds =>
      obtain ⟨done, s', files', hrun, hran, hgateway⟩ := s.exportTo_run space seconds files
      exact ⟨s', files', run_bind_of_eq hrun _, hran, .inl hgateway⟩

/-! ### Watching changes nothing -/

open WatchedFiles

theorem performAll_cons (s : Session γ) (call : SessionCall) (calls : List SessionCall)
    (files : φ) :
    (s.performAll (call :: calls) : StateM φ _).run files =
      (((s.perform call : StateM φ _).run files).1.performAll calls : StateM φ _).run
        ((s.perform call : StateM φ _).run files).2 := by
  rw [performAll, List.foldlM_cons]
  rfl

end Steps

/-! ## The two states of a session -/

/-- What has become of a session that started without a script, and what it has written. -/
inductive Frozen (initial s : Session γ) (calls : List FileCall) : Prop where
  /-- Nothing is compiled; but for a prefix the compiler is as it was. -/
  | raw : s.schema = initial.schema → s.script = [] →
    (∀ p, s.compiler.withPrefix p = initial.compiler.withPrefix p) → s.store = initial.store →
    s.gateway = initial.gateway → calls = [] → Frozen initial s calls
  /-- The schema is compiled, with the prefix that the gateway had until then. -/
  | compiled (c : Compilation) : initial.compilation = .ok c → s.schema = c.schema →
    s.script = c.script → s.compiler = c.compiler → s.store = initial.store →
    KeptTo initial.store c.schema c.statements calls → Frozen initial s calls

variable {φ : Type} [FileAccess (StateM φ)] {initial s : Session γ} {w : WatchedFiles φ}

omit [Gateway γ] in
theorem tolerates_keptTo (s : Session γ) :
    s.Tolerates fun w : WatchedFiles φ => KeptTo s.store s.schema s.statements w.calls :=
  ⟨fun space backup _ h => h.save space backup, fun space seconds _ h => h.writeDump space seconds⟩

theorem Frozen.start (h : initial.script = []) : Frozen initial initial [] :=
  .raw rfl h (fun _ => rfl) rfl rfl rfl

/-- The first compilation freezes a session. -/
theorem frozen_of_compilation {s' : Session γ} {w' : WatchedFiles φ} {c : Compilation}
    (hinitial : initial.compilation = .ok c) (hran : s.Ran w s' w')
    (hschema : s.load.2.schema = c.schema) (hscript : s.load.2.script = c.script)
    (hcompiler : s.load.2.compiler = c.compiler) (hstore : s.load.2.store = initial.store)
    (hcalls : KeptTo initial.store c.schema c.statements w.calls) :
    Frozen initial s' w'.calls := by
  refine .compiled c hinitial (hran.same.schema.trans hschema) (hran.same.script.trans hscript)
    (hran.same.compiler.trans hcompiler) (hran.same.store.trans hstore) ?_
  refine hran.kept (fun w => KeptTo initial.store c.schema c.statements w.calls) (fun _ => ?_)
    hcalls
  have htolerates := s.load.2.tolerates_keptTo (φ := φ)
  rwa [statements, hschema, hscript, hstore] at htolerates

omit [FileAccess (StateM φ)] in
theorem Frozen.store {calls : List FileCall} (h : Frozen initial s calls) :
    s.store = initial.store := by
  cases h with
  | raw hschema hscript hcompiler hstore hgateway hcalls => exact hstore
  | compiled c hc hschema hscript hcompiler hstore hcalls => exact hstore

theorem Frozen.perform (h : Frozen initial s w.calls) (call : SessionCall) :
    Frozen initial ((s.perform call : StateM (WatchedFiles φ) _).run w).1
      ((s.perform call : StateM (WatchedFiles φ) _).run w).2.calls := by
  obtain ⟨s', w', hrun, hran, hgateway'⟩ := s.perform_run call w
  rw [hrun]
  dsimp only
  cases h with
  | raw hschema hscript hcompiler hstore hgateway hcalls =>
      have hcompilation : s.compilation = initial.compilation := by
        rw [compilation, compilation, hschema, hgateway, hcompiler]
      cases hc : initial.compilation with
      | error e =>
          have hload := load_of_error hscript (hcompilation.trans hc)
          have hgateway' : s'.gateway = s.gateway := by
            obtain h | ⟨space, h⟩ := hgateway'
            · exact h
            · rwa [imported_of_idle (by rw [hload]; exact hscript)] at h
          obtain ⟨hsame, hkept⟩ := hran
          rw [hload] at hsame hkept
          refine .raw (hsame.schema.trans hschema) (hsame.script.trans hscript) (fun p => ?_)
            (hsame.store.trans hstore) (hgateway'.trans hgateway) ?_
          · rw [hsame.compiler]
            exact hcompiler p
          · exact hkept (fun w => w.calls = []) (fun hne => absurd hscript hne) hcalls
      | ok c =>
          have hload := load_of_ok hscript (hcompilation.trans hc)
          refine frozen_of_compilation hc hran ?_ ?_ ?_ ?_ (hcalls ▸ .start)
          all_goals rw [hload]
          · rfl
          · rfl
          · rfl
          · exact hstore
  | compiled c hc hschema hscript hcompiler hstore hcalls =>
      have hload := load_of_script (hscript ▸ Compiler.script_ne_nil hc)
      refine frozen_of_compilation hc hran ?_ ?_ ?_ ?_ hcalls
      all_goals rw [hload]
      · exact hschema
      · exact hscript
      · exact hcompiler
      · exact hstore

theorem Frozen.performAll (h : Frozen initial s w.calls) (calls : List SessionCall) :
    Frozen initial ((s.performAll calls : StateM (WatchedFiles φ) _).run w).1
      ((s.performAll calls : StateM (WatchedFiles φ) _).run w).2.calls := by
  induction calls generalizing s w with
  | nil => exact h
  | cons call r ih =>
      rw [performAll_cons]
      exact ih (h.perform call)

end Session

end SchemaDdl
