import SchemaDdl.Proofs.SessionSteps

/-!
# An import stops at the first failure and comes back

A gateway is behind an interface, so it can be replaced by a `Watched` one,
which passes every request on, answers what it was answered and records what it
was asked to execute and where it was asked to switch to. What an import does at
a gateway, whatever that gateway answers, is a statement about the record.

The record of an import has one of few forms, `ImportCalls`: the switch to the
target was refused and nothing else happened, or the statements ran between a
switch there and a switch back, or they ran without either because the gateway
was on the target. How the statements ran is `Runs`: one after the other up to
the first that failed. `FailStop` says what this means, and
`importTo_failStop` that every import is of this kind, with the same record
whatever becomes of the files.
-/

namespace SchemaDdl

/-! ## Watched gateways -/

/-- A request that may change a gateway, and whether it succeeded. -/
inductive GatewayCall where
  | switch (space : String) (succeeded : Bool)
  /-- A statement for the namespace that the gateway is on. -/
  | execute (space statement : String) (succeeded : Bool)
deriving DecidableEq

namespace GatewayCall

def succeeded : GatewayCall → Bool
  | switch _ ok | execute _ _ ok => ok

def statement? : GatewayCall → Option String
  | switch .. => none
  | execute _ statement _ => some statement

def isExecution (call : GatewayCall) : Bool := call.statement?.isSome

/-- The statements that a gateway was asked to execute. -/
def executed (calls : List GatewayCall) : List String := calls.filterMap statement?

theorem executed_append (calls calls' : List GatewayCall) :
    executed (calls ++ calls') = executed calls ++ executed calls' := List.filterMap_append

end GatewayCall

structure Watched (γ : Type) where
  gateway : γ
  calls : List GatewayCall := []

namespace Watched

variable {γ : Type} [Gateway γ]

def switch (w : Watched γ) (space : String) : Reply (Watched γ) :=
  let reply := Gateway.switch w.gateway space
  { result := reply.result
    gateway := ⟨reply.gateway, w.calls ++ [.switch space reply.result.isOk]⟩
    notes := reply.notes }

def execute (w : Watched γ) (statement : String) : Reply (Watched γ) :=
  let reply := Gateway.execute w.gateway statement
  { result := reply.result
    gateway :=
      ⟨reply.gateway,
        w.calls ++ [.execute (Gateway.current w.gateway) statement reply.result.isOk]⟩
    notes := reply.notes }

instance : Gateway (Watched γ) where
  current w := Gateway.current w.gateway
  tablePrefix w := Gateway.tablePrefix w.gateway
  switch := switch
  execute := execute

theorem calls_execute (w : Watched γ) (statement : String) :
    (Gateway.execute w statement).gateway.calls =
      w.calls ++
        [.execute (Gateway.current w) statement (Gateway.execute w statement).result.isOk] := rfl

end Watched

namespace Session

variable {γ : Type}

/-- The session with its gateway watched from now on. -/
def watched (s : Session γ) : Session (Watched γ) := { s with gateway := { gateway := s.gateway } }

variable [Gateway γ]

theorem executeFrom_of_error {done : Execution γ} {statement : String} {e : DatabaseError}
    (h : (Gateway.execute done.gateway statement).result = .error e) (r : List String) :
    executeFrom done (statement :: r) =
      { done with
        gateway := (Gateway.execute done.gateway statement).gateway
        failure := some e
        notes := done.notes ++ (Gateway.execute done.gateway statement).notes } := by
  simp only [executeFrom, h]

theorem executeFrom_of_ok {done : Execution γ} {statement : String}
    (h : (Gateway.execute done.gateway statement).result = .ok ()) (r : List String) :
    executeFrom done (statement :: r) =
      executeFrom
        { done with
          gateway := (Gateway.execute done.gateway statement).gateway
          applied := done.applied + 1
          notes := done.notes ++ (Gateway.execute done.gateway statement).notes } r := by
  simp only [executeFrom, h]

/-! ## Watching changes nothing -/

def Execution.unwatched (done : Execution (Watched γ)) : Execution γ :=
  { done with gateway := done.gateway.gateway }

theorem executeFrom_unwatched (done : Execution (Watched γ)) (statements : List String) :
    executeFrom done.unwatched statements = (executeFrom done statements).unwatched := by
  induction statements generalizing done with
  | nil => rfl
  | cons statement r ih =>
      cases h : (Gateway.execute done.gateway.gateway statement).result with
      | error e =>
          have h' : (Gateway.execute done.gateway statement).result = .error e := h
          rw [executeFrom_of_error h, executeFrom_of_error h']
          rfl
      | ok u =>
          have h' : (Gateway.execute done.gateway statement).result = .ok () := h
          rw [executeFrom_of_ok h, executeFrom_of_ok h', ← ih]
          rfl

theorem moved_unwatched (w : Watched γ) (stays : Bool) (space : String) :
    moved w.gateway stays space = ((moved w stays space).1, (moved w stays space).2.gateway) := by
  cases stays with
  | false => rfl
  | true => rfl

theorem applied_unwatched (w : Watched γ) (statements : List String) (target : String) :
    applied w.gateway statements target =
      ((applied w statements target).1, (applied w statements target).2.gateway) := by
  have hmoved := moved_unwatched w (Gateway.current w = target) target
  rcases hthere : moved w (Gateway.current w = target) target with ⟨_ | _, there⟩
  · rw [hthere] at hmoved
    rw [applied_of_refused hthere, applied_of_refused hmoved]
  · rw [hthere] at hmoved
    have hrun : executeFrom { gateway := there.gateway } statements =
        (executeFrom { gateway := there } statements).unwatched :=
      executeFrom_unwatched { gateway := there } statements
    rw [applied_of_arrived hthere, applied_of_arrived hmoved, hrun]
    generalize executeFrom { gateway := there } statements = done
    have hback :
        moved done.unwatched.gateway (Gateway.current w = target) (Gateway.current w) = _ :=
      moved_unwatched done.gateway (Gateway.current w = target) (Gateway.current w)
    exact congrArg (fun back => (done.failure.isNone && back.1, back.2)) hback

end Session

/-! ## The record of an import -/

/-- The record of executing statements up to the first that fails, and whether none did. -/
inductive Runs : List String → List GatewayCall → Bool → Prop where
  | complete : Runs [] [] true
  | failed (space statement : String) (rest : List String) :
    Runs (statement :: rest) [.execute space statement false] false
  | went (space statement : String) {rest : List String} {calls : List GatewayCall} {ok : Bool} :
    Runs rest calls ok → Runs (statement :: rest) (.execute space statement true :: calls) ok

namespace Runs

open GatewayCall

variable {statements : List String} {calls : List GatewayCall} {ok : Bool}

theorem isExecution (h : Runs statements calls ok) : ∀ call ∈ calls, call.isExecution = true := by
  induction h with
  | complete => exact fun call hcall => by cases hcall
  | failed space statement rest =>
      intro call hcall
      rw [List.mem_singleton.1 hcall]
      rfl
  | went space statement h ih => exact List.forall_mem_cons.2 ⟨rfl, ih⟩

theorem inOrder (h : Runs statements calls ok) : executed calls <+: statements := by
  induction h with
  | complete => exact List.prefix_refl _
  | failed space statement rest => exact List.prefix_append [statement] rest
  | went space statement h ih => exact (List.prefix_cons_inj statement).2 ih

theorem not_mem_switch (h : Runs statements calls ok) (space : String) (succeeded : Bool) :
    .switch space succeeded ∉ calls := fun hmem => by cases h.isExecution _ hmem

/-- A call that failed is the last. -/
theorem stops (h : Runs statements calls ok) {before after : List GatewayCall} {call : GatewayCall}
    (hcalls : calls = before ++ call :: after) (hfailed : call.succeeded = false) : after = [] := by
  induction h generalizing before with
  | complete => simp at hcalls
  | failed space statement rest =>
      cases before with
      | nil => exact (List.cons.inj hcalls).2.symm
      | cons first before => simp at hcalls
  | went space statement h ih =>
      cases before with
      | nil =>
          rw [← (List.cons.inj hcalls).1] at hfailed
          cases hfailed
      | cons first before => exact ih (List.cons.inj hcalls).2

theorem ok_iff (h : Runs statements calls ok) :
    ok = true ↔ ∀ call ∈ calls, call.succeeded = true := by
  induction h with
  | complete => exact iff_of_true rfl fun call hcall => by cases hcall
  | failed space statement rest =>
      refine iff_of_false Bool.false_ne_true fun h => ?_
      cases h _ List.mem_cons_self
  | went space statement h ih =>
      rw [ih, List.forall_mem_cons]
      exact ⟨fun h => ⟨rfl, h⟩, And.right⟩

theorem ok_iff_none_failed (h : Runs statements calls ok) :
    ok = true ↔ ∀ space x, .execute space x false ∉ calls := by
  rw [h.ok_iff]
  refine ⟨fun hok space x hcall => Bool.false_ne_true (hok _ hcall), fun hnone call hcall => ?_⟩
  cases call with
  | switch space succeeded => cases h.not_mem_switch space succeeded hcall
  | execute space x succeeded =>
      cases succeeded with
      | false => cases hnone space x hcall
      | true => rfl

theorem executed_of_ok (h : Runs statements calls ok) (hok : ok = true) :
    executed calls = statements := by
  induction h with
  | complete => rfl
  | failed space statement rest => cases hok
  | went space statement h ih => exact congrArg (statement :: ·) (ih hok)

end Runs

/-- The record of an import of statements from a namespace to another, and what it reports. -/
inductive ImportCalls (home target : String) (statements : List String) :
    List GatewayCall → Bool → Prop where
  | refused : home ≠ target → ImportCalls home target statements [.switch target false] false
  | stayed {calls : List GatewayCall} {ok : Bool} :
    home = target → Runs statements calls ok → ImportCalls home target statements calls ok
  | returned {calls : List GatewayCall} {ok : Bool} (back : Bool) :
    home ≠ target → Runs statements calls ok →
    ImportCalls home target statements (.switch target true :: (calls ++ [.switch home back]))
      (ok && back)

namespace Session

variable {γ : Type} [Gateway γ]

theorem runs_executeFrom (done : Execution (Watched γ)) (statements : List String)
    (h : done.failure = none) :
    ∃ calls, (executeFrom done statements).gateway.calls = done.gateway.calls ++ calls ∧
      Runs statements calls (executeFrom done statements).failure.isNone := by
  induction statements generalizing done with
  | nil =>
      refine ⟨[], (List.append_nil _).symm, ?_⟩
      rw [executeFrom, h]
      exact .complete
  | cons statement r ih =>
      cases hresult : (Gateway.execute done.gateway statement).result with
      | error e =>
          rw [executeFrom_of_error hresult]
          refine ⟨[.execute (Gateway.current done.gateway) statement false], ?_, .failed _ _ _⟩
          rw [Watched.calls_execute, hresult]
          rfl
      | ok u =>
          rw [executeFrom_of_ok hresult]
          obtain ⟨calls, hcalls, hruns⟩ := ih
            { done with
              gateway := (Gateway.execute done.gateway statement).gateway
              applied := done.applied + 1
              notes := done.notes ++ (Gateway.execute done.gateway statement).notes } h
          refine ⟨.execute (Gateway.current done.gateway) statement true :: calls, ?_,
            .went _ _ hruns⟩
          rw [hcalls, Watched.calls_execute, hresult, List.append_assoc]
          rfl

theorem calls_moved (w : Watched γ) (space : String) :
    (moved w false space).2.calls = w.calls ++ [.switch space (moved w false space).1] := rfl

theorem importCalls_applied (w : Watched γ) (statements : List String) (target : String) :
    ∃ calls, (applied w statements target).2.calls = w.calls ++ calls ∧
      ImportCalls (Gateway.current w) target statements calls (applied w statements target).1 := by
  by_cases hhome : Gateway.current w = target
  · have hthere : moved w (Gateway.current w = target) target = (true, w) := by
      rw [decide_eq_true hhome]
      rfl
    obtain ⟨calls, hcalls, hruns⟩ := runs_executeFrom { gateway := w } statements rfl
    rw [applied_of_arrived hthere, decide_eq_true hhome]
    refine ⟨calls, hcalls, ?_⟩
    show ImportCalls _ _ _ _ (_ && true)
    rw [Bool.and_true]
    exact .stayed hhome hruns
  · rcases hthere : moved w (Gateway.current w = target) target with ⟨_ | _, there⟩
    · rw [applied_of_refused hthere]
      rw [decide_eq_false hhome] at hthere
      have hcalls := calls_moved w target
      rw [hthere] at hcalls
      exact ⟨_, hcalls, .refused hhome⟩
    · obtain ⟨calls, hcalls, hruns⟩ := runs_executeFrom { gateway := there } statements rfl
      rw [applied_of_arrived hthere]
      rw [decide_eq_false hhome] at hthere ⊢
      have hswitch := calls_moved w target
      rw [hthere] at hswitch
      refine ⟨_, ?_, .returned _ hhome hruns⟩
      rw [calls_moved, hcalls, hswitch]
      simp only [List.append_assoc, List.cons_append, List.nil_append]

end Session

/-! ## What the record says -/

open GatewayCall in
/-- How an import from a namespace to another deals with the statements of a script. -/
structure FailStop (home target : String) (statements : List String) (calls : List GatewayCall)
    (done : Bool) : Prop where
  /-- The first statements that are no comments are executed, in their order. -/
  inOrder : executed calls <+: statements.filter fun x => !Sql.isComment x
  /-- Behind an execution that failed there is no other. -/
  stops : ∀ before space x after, calls = before ++ .execute space x false :: after →
    executed after = []
  /-- If the target was reached and no execution failed, all of them are executed. -/
  completes : statements ≠ [] → .switch target false ∉ calls →
    (∀ space x, .execute space x false ∉ calls) →
      executed calls = statements.filter fun x => !Sql.isComment x
  /-- Without statements the gateway is asked for nothing. -/
  idle : statements = [] → calls = []
  /-- If the target refuses, nothing is executed. -/
  refused : .switch target false ∈ calls → executed calls = []
  /-- The first request is to switch to the target, unless the gateway is on it. -/
  leaves : statements ≠ [] →
    (home ≠ target ↔ ∃ arrived, calls.head? = some (.switch target arrived))
  stays : home = target → ∀ call ∈ calls, call.isExecution = true
  /-- Behind the way to the target there are executions, and the last request is to switch back. -/
  returns : home ≠ target → .switch target true ∈ calls → ∃ run back,
    calls = .switch target true :: (run ++ [.switch home back]) ∧
      ∀ call ∈ run, call.isExecution = true
  done_iff : done = true ↔ statements ≠ [] ∧ ∀ call ∈ calls, call.succeeded = true

namespace FailStop

open GatewayCall

variable {home target : String} {statements : List String} {calls : List GatewayCall} {ok : Bool}

theorem of_idle (home target : String) : FailStop home target [] [] false where
  inOrder := List.prefix_refl _
  stops before space x after h := by simp at h
  completes h := absurd rfl h
  idle _ := rfl
  refused h := by cases h
  leaves h := absurd rfl h
  stays _ call hcall := by cases hcall
  returns _ h := by cases h
  done_iff := iff_of_false Bool.false_ne_true fun h => h.1 rfl

theorem of_refused (h : home ≠ target) (hstatements : statements ≠ []) :
    FailStop home target statements [.switch target false] false where
  inOrder := List.nil_prefix
  stops before space x after hcalls := by
    have hmem : GatewayCall.execute space x false ∈ [GatewayCall.switch target false] := by
      rw [hcalls]
      exact List.mem_append_right _ List.mem_cons_self
    cases List.mem_singleton.1 hmem
  completes _ h := absurd List.mem_cons_self h
  idle h := absurd h hstatements
  refused _ := rfl
  leaves _ := iff_of_true h ⟨false, rfl⟩
  stays hhome := absurd hhome h
  returns _ hmem := by cases List.mem_singleton.1 hmem
  done_iff := iff_of_false Bool.false_ne_true fun h => by cases h.2 _ List.mem_cons_self

theorem of_stayed (h : home = target) (hstatements : statements ≠ [])
    (hruns : Runs (statements.filter fun x => !Sql.isComment x) calls ok) :
    FailStop home target statements calls ok where
  inOrder := hruns.inOrder
  stops before space x after hcalls := by
    rw [hruns.stops hcalls rfl]
    rfl
  completes _ _ hnone := hruns.executed_of_ok (hruns.ok_iff_none_failed.2 hnone)
  idle h := absurd h hstatements
  refused hmem := absurd hmem (hruns.not_mem_switch _ _)
  leaves _ := by
    refine iff_of_false (not_not_intro h) fun ⟨arrived, hhead⟩ => ?_
    exact hruns.not_mem_switch _ _ (List.mem_of_mem_head? hhead)
  stays _ := hruns.isExecution
  returns hne := absurd h hne
  done_iff := by rw [hruns.ok_iff, and_iff_right hstatements]

theorem of_returned {back : Bool} (h : home ≠ target) (hstatements : statements ≠ [])
    (hruns : Runs (statements.filter fun x => !Sql.isComment x) calls ok) :
    FailStop home target statements (.switch target true :: (calls ++ [.switch home back]))
      (ok && back) := by
  have hexecuted : executed (.switch target true :: (calls ++ [.switch home back])) =
      executed calls := (executed_append calls _).trans (List.append_nil _)
  have hmem : ∀ call, call ∈ GatewayCall.switch target true :: (calls ++ [.switch home back]) ↔
      call = .switch target true ∨ call ∈ calls ∨ call = .switch home back := by simp
  refine {
    inOrder := by rw [hexecuted]; exact hruns.inOrder
    stops := ?_
    completes := ?_
    idle := fun h => absurd h hstatements
    refused := ?_
    leaves := fun _ => iff_of_true h ⟨true, rfl⟩
    stays := fun hhome => absurd hhome h
    returns := fun _ _ => ⟨calls, back, rfl, hruns.isExecution⟩
    done_iff := ?_ }
  · intro before space x after hcalls
    rcases before with _ | ⟨first, before⟩
    · cases (List.cons.inj hcalls).1
    · replace hcalls := (List.cons.inj hcalls).2
      rcases List.eq_nil_or_concat after with rfl | ⟨after, last, rfl⟩
      · rfl
      · obtain ⟨hrun, hlast⟩ : calls = before ++ .execute space x false :: after ∧
            [.switch home back] = [last] := List.append_inj' (by simpa using hcalls) rfl
        rw [hruns.stops hrun rfl, ← List.singleton_inj.1 hlast]
        rfl
  · intro _ _ hnone
    rw [hexecuted]
    exact hruns.executed_of_ok (hruns.ok_iff_none_failed.2 fun space x hcall =>
      hnone space x ((hmem _).2 (.inr (.inl hcall))))
  · intro hrefused
    rcases (hmem _).1 hrefused with hcall | hcall | hcall
    · cases hcall
    · cases hruns.not_mem_switch _ _ hcall
    · cases hcall
      cases h rfl
  · rw [and_iff_right hstatements, Bool.and_eq_true, hruns.ok_iff]
    simp only [hmem, or_imp, forall_and, forall_eq]
    exact ⟨fun h => ⟨rfl, h.1, h.2⟩, And.right⟩

theorem of_importCalls (hstatements : statements ≠ [])
    (h : ImportCalls home target (statements.filter fun x => !Sql.isComment x) calls ok) :
    FailStop home target statements calls ok := by
  cases h with
  | refused hne => exact of_refused hne hstatements
  | stayed heq hruns => exact of_stayed heq hstatements hruns
  | returned back hne hruns => exact of_returned hne hstatements hruns

end FailStop

namespace Session

variable {γ : Type} [Gateway γ]

theorem watched_load (s : Session γ) : s.watched.load.2 = s.load.2.watched := by
  by_cases hscript : s.script = []
  · cases hc : s.compilation with
    | error e =>
        rw [load_of_error hscript hc, load_of_error (s := s.watched) hscript hc]
        rfl
    | ok c =>
        rw [load_of_ok hscript hc, load_of_ok (s := s.watched) hscript hc]
        rfl
  · rw [load_of_script hscript, load_of_script (s := s.watched) hscript]

theorem watched_imported (s : Session γ) (space : Option String) :
    s.imported space =
      ((s.watched.imported space).1, (s.watched.imported space).2.gateway) := by
  by_cases hscript : s.load.2.script = []
  · have hscript' : s.watched.load.2.script = [] := by rw [s.watched_load]; exact hscript
    rw [imported_of_idle hscript, imported_of_idle hscript']
    rfl
  · have hscript' : s.watched.load.2.script ≠ [] := by rw [s.watched_load]; exact hscript
    rw [imported_of_script hscript, imported_of_script hscript', s.watched_load]
    exact applied_unwatched s.watched.gateway s.load.2.executable (s.target space)

theorem failStop_imported (s : Session γ) (space : Option String) :
    FailStop (Gateway.current s.gateway) (s.target space) s.load.2.statements
      (s.watched.imported space).2.calls (s.watched.imported space).1 := by
  by_cases hscript : s.load.2.script = []
  · have hscript' : s.watched.load.2.script = [] := by rw [s.watched_load]; exact hscript
    rw [imported_of_idle hscript', statements, hscript]
    exact .of_idle _ _
  · have hscript' : s.watched.load.2.script ≠ [] := by rw [s.watched_load]; exact hscript
    obtain ⟨calls, hcalls, himport⟩ :=
      importCalls_applied s.watched.gateway s.load.2.executable (s.target space)
    rw [imported_of_script hscript', s.watched_load]
    refine .of_importCalls (fun h => hscript (List.map_eq_nil_iff.1 h)) ?_
    exact hcalls ▸ himport

/-- An import stops at the first failure and leaves its target again, whatever the gateway answers
and whatever becomes of the files. -/
theorem importTo_failStop (s : Session γ) (space : Option String) :
    ∃ calls done,
      FailStop (Gateway.current s.gateway) (s.target space) s.load.2.statements calls done ∧
      ∀ {φ : Type} [FileAccess (StateM φ)] (files : φ),
        let plain := ((s.importTo space : StateM φ _).run files).1
        let watched := ((s.watched.importTo space : StateM φ _).run files).1
        plain.1 = done ∧ watched.1 = done ∧ watched.2.gateway.calls = calls ∧
          watched.2.gateway.gateway = plain.2.gateway ∧
          plain.2.statements = s.load.2.statements := by
  refine ⟨_, _, s.failStop_imported space, fun {φ} _ files => ?_⟩
  obtain ⟨done, s', files', hrun, hran, hdone⟩ := s.importTo_run space files
  obtain ⟨done', w, files'', hrun', -, hdone'⟩ := s.watched.importTo_run space files
  have hunwatched := s.watched_imported space
  rw [← hdone, ← hdone', Prod.mk.injEq] at hunwatched
  rw [hrun, hrun', ← hdone']
  exact ⟨hunwatched.1, rfl, rfl, hunwatched.2.symm, hran.same.statements⟩

end Session

end SchemaDdl
