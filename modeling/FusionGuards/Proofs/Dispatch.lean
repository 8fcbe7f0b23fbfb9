import FusionGuards.Proofs.Ledger

/-! The backend and the fallback of a dispatch are put behind a log of the calls made to them, which changes nothing
in what the dispatch comes to. -/

namespace FusionGuards

inductive Invocation
  | compile (group : Group)
  | run (group : Group) (stack : Stack)
  | canFuse (node : Node)
  | profile (node : Node)
  | skip (symbol : String) (flip : Bool)
  | fallback (stack : Stack)

def Invocation.logged (call : Invocation) (x : StateM ω α) : StateM (ω × List Invocation) α := fun (s, log) =>
  let (answer, s') := x s
  (answer, s', log ++ [call])

def Backend.logged (b : Backend ω) : Backend (ω × List Invocation) where
  compile group := (Invocation.compile group).logged (b.compile group)
  run group stack := (Invocation.run group stack).logged (b.run group stack)
  canFuse node := (Invocation.canFuse node).logged (b.canFuse node)
  profile node := (Invocation.profile node).logged (b.profile node)
  skip symbol flip := (Invocation.skip symbol flip).logged (b.skip symbol flip)

namespace Fuser

variable (f : Fuser ω) (group : Group) (stack : Stack)

def logged : Fuser (ω × List Invocation) where
  enablement := f.enablement
  guardMode := f.guardMode
  singletonFusion := f.singletonFusion
  horizontalFusion := f.horizontalFusion
  backend := f.backend.map Backend.logged
  metrics := f.metrics

def invocations : List Invocation := if f.backend.isSome then [.run group stack] else []

theorem run_logged (s : ω) (log : List Invocation) : f.logged.run group stack (s, log) =
    let (result, s') := f.run group stack s
    (result, s', log ++ f.invocations group stack) := by
  cases backend : f.backend with
  | none =>
    have missing : f.logged.backend = none := by rw [logged, backend, Option.map_none]
    simp [run_of_none group stack _ backend, run_of_none group stack _ missing, invocations, backend]
  | some b =>
    have installed : f.logged.backend = some b.logged := by rw [logged, backend, Option.map_some]
    simp only [run_of_some group stack _ backend, run_of_some group stack _ installed, invocations, backend]
    rfl

end Fuser

namespace CachedPath

variable (p : CachedPath) (f : Fuser ω) (host : Host) (gradMode : Bool)
variable (fallback : Stack → StateM ω (Except String Unit × Stack)) (stack : Stack) (s : ω)

def invocations : List Invocation :=
  match p.admission f host gradMode stack with
  | .error _ => []
  | .ok true => f.invocations p.group stack
  | .ok false => [.fallback stack]

def executeLogged (log : List Invocation) : Report (Dispatch (ω × List Invocation)) :=
  p.execute f.logged host gradMode (fun stack => (Invocation.fallback stack).logged (fallback stack)) stack (s, log)

theorem executeLogged_eq (log : List Invocation) : p.executeLogged f host gradMode fallback stack s log =
    (fun d => ⟨d.answer, d.enablement, d.stack, d.state, log ++ p.invocations f host gradMode stack⟩) <$>
      p.execute f host gradMode fallback stack s := by
  have admits : p.admits f.logged host gradMode stack = p.admits f host gradMode stack := rfl
  rw [executeLogged, execute, execute, map_bind, admits]
  -- What is called depends on what admission answers, so the two go on alike from that answer only.
  refine Report.bind_congr_value ?_
  rw [value_admits, invocations]
  cases p.admission f host gradMode stack with
  | error err => simp
  | ok admitted =>
    cases admitted with
    | true =>
      simp only [Fuser.run_logged]
      rcases f.run p.group stack s with ⟨⟨_ | _, left⟩, s'⟩ <;> simp
    | false =>
      simp only [Invocation.logged]
      rcases fallback stack s with ⟨⟨_ | _, left⟩, s'⟩ <;> simp

theorem invocations_eq : p.invocations f host gradMode stack = [] ∨
    p.invocations f host gradMode stack = [.run p.group stack] ∨
    p.invocations f host gradMode stack = [.fallback stack] := by
  rw [invocations, Fuser.invocations]
  split
  · exact .inl rfl
  · split
    · exact .inr (.inl rfl)
    · exact .inl rfl
  · exact .inr (.inr rfl)

theorem admission_of_run_mem {group : Group} {args : Stack}
    (called : .run group args ∈ p.invocations f host gradMode stack) :
    p.admission f host gradMode stack = .ok true := by
  rw [invocations] at called
  split at called
  · simp at called
  · assumption
  · simp at called

theorem admission_of_fallback_mem {args : Stack} (called : .fallback args ∈ p.invocations f host gradMode stack) :
    p.admission f host gradMode stack = .ok false := by
  rw [invocations, Fuser.invocations] at called
  split at called
  · simp at called
  · split at called <;> simp at called
  · assumption

theorem execute_of_disabled (disabled : f.enablement.resolve host = .ok false) (guards : Chain) :
    { p with guards }.execute f host gradMode fallback stack s = p.execute f host gradMode fallback stack s := by
  have admits : { p with guards }.admits f host gradMode stack = p.admits f host gradMode stack := by
    rw [admits, admits]
    refine Report.bind_congr_value ?_
    rw [Enablement.value_isEnabled, disabled]
  rw [execute, execute, admits]

theorem execute_unrouted (unrouted : (∃ err, p.admission f host gradMode stack = .error err) ∨
      p.admission f host gradMode stack = .ok true ∧ f.backend = none) :
    let dispatch := (p.execute f host gradMode fallback stack s).value
    dispatch.stack = stack ∧ Tally.ofRoutes [dispatch.answer] = 0 := by
  rw [value_execute]
  obtain ⟨err, failed⟩ | ⟨admitted, missing⟩ := unrouted
  · rw [failed]
    obtain rfl | ⟨fault, rfl⟩ := p.admission_eq_error f host gradMode stack failed <;> exact ⟨rfl, rfl⟩
  · rw [admitted, Fuser.run_of_none p.group stack s missing]
    exact ⟨rfl, rfl⟩

end CachedPath

namespace Engine

variable (e : Engine ω)

/-- A dispatch calls the path or the fallback, once and with the stack as it is, or neither. The path is called by an
enabled fuser only if each of its guards passes, and by a disabled one without regard to guards. Routes are counted by
the answers of dispatches. -/
theorem guarded_dispatch (p : CachedPath) (host : Host) (gradMode : Bool)
    (fallback : Stack → StateM ω (Except String Unit × Stack)) (stack : Stack) (run : List (Moment ω)) :
    let f := e.fuser
    let dispatch := p.execute f host gradMode fallback stack e.state
    let logged := p.executeLogged f host gradMode fallback stack e.state []
    let calls := logged.value.state.2
    let enabled := (f.enablement.isEnabled host).value.1
    let admitted := (p.admits f host gradMode stack).value.1
    let answers := (e.record run).filterMap Entry.route?
    let metrics := (e.after run).fuser.metrics
    logged = (fun d => ⟨d.answer, d.enablement, d.stack, d.state, calls⟩) <$> dispatch ∧
    (calls = [] ∨ calls = [.run p.group stack] ∨ calls = [.fallback stack]) ∧
    (enabled = .ok true → .run p.group stack ∈ calls →
      ∀ b ∈ p.guards.bindings, b.outcome (f.mode gradMode) stack = .ok true) ∧
    (enabled = .ok false → (∀ args, .fallback args ∉ calls) ∧ dispatch.tally = .ofRoutes [dispatch.value.answer] ∧
      ∀ guards : Chain, { p with guards }.execute f host gradMode fallback stack e.state = dispatch) ∧
    (∀ err, admitted = .error err → err = .incapable ∨ ∃ fault, err = .guard fault) ∧
    ((∃ err, admitted = .error err) ∨ admitted = .ok true ∧ f.backend = none →
      dispatch.value.stack = stack ∧ dispatch.tally.fallbacks = 0 ∧ dispatch.tally.specialized = 0) ∧
    metrics.specialized = f.metrics.specialized + answers.countP Route.ranSpecialized ∧
    metrics.fallbacks = f.metrics.fallbacks + answers.countP Route.ranFallback := by
  intro f dispatch logged calls enabled admitted answers metrics
  have resolve : enabled = f.enablement.resolve host := congrArg Prod.fst (f.enablement.value_isEnabled host)
  have admission : admitted = p.admission f host gradMode stack :=
    congrArg Prod.fst (p.value_admits f host gradMode stack)
  have entire : logged = _ := p.executeLogged_eq f host gradMode fallback stack e.state []
  have invocations : calls = p.invocations f host gradMode stack := congrArg (·.value.state.2) entire
  have tally : dispatch.tally = _ := p.tally_execute f host gradMode fallback stack e.state
  have grown : metrics = f.metrics + .ofRecord ((e.record run).flatMap Entry.evaluations) answers := e.metrics_after run
  rw [resolve, admission, invocations]
  refine ⟨entire, p.invocations_eq f host gradMode stack, fun on called => ?_, fun off => ⟨fun args called => ?_, ?_, ?_⟩,
    ?_, fun unrouted => ?_, ?_, ?_⟩
  · exact (p.admission_eq_true_iff f host gradMode stack on).1 (p.admission_of_run_mem f host gradMode stack called)
  · have refused := p.admission_of_fallback_mem f host gradMode stack called
    rw [p.admission_of_disabled f host gradMode stack off] at refused
    cases refused
  · rw [tally, p.evaluations_of_disabled f host gradMode stack off, Tally.ofEvaluations_nil, Tally.zero_add]
  · exact p.execute_of_disabled f host gradMode fallback stack e.state off
  · exact fun err => p.admission_eq_error f host gradMode stack
  · obtain ⟨kept, uncounted⟩ := p.execute_unrouted f host gradMode fallback stack e.state unrouted
    rw [uncounted, Tally.add_zero] at tally
    exact ⟨kept, congrArg Tally.fallbacks tally, congrArg Tally.specialized tally⟩
  · simp only [grown, Tally.add_def, Tally.specialized_ofRecord]
  · simp only [grown, Tally.add_def, Tally.fallbacks_ofRecord]

theorem guarded_dispatch_fused_add :
    let host : Host := ⟨⟨true, true, true⟩, .empty⟩
    let path : CachedPath := ⟨⟨7, "fused_add"⟩, ⟨[⟨.sizeEq, [0, 1]⟩]⟩⟩
    let fallback : Stack → StateM Unit (Except String Unit × Stack) := fun _ => pure (.error "fallback failed", [])
    let backend : Backend Unit := { compile := fun _ => pure (.ok ()), run := fun _ _ => pure (.ok (), []) }
    let engine (enabled : Bool) (backend : Option (Backend Unit)) : Engine Unit :=
      ⟨{ enablement := { assigned := some enabled }, guardMode := true, singletonFusion := true,
         horizontalFusion := true, backend }, ()⟩
    let plain : Stack := [.intList [2, 3], .intList [4, 5]]
    let broadcast : Stack := [.intList [2, 3], .intList [2, 1]]
    let on := engine true backend
    let off := engine false backend
    let alone := engine true none
    let run : List (Moment Unit) := [⟨.execute path fallback broadcast, host, true⟩]
    (.run path.group plain ∈ (path.executeLogged on.fuser host true fallback plain () []).value.state.2 ∧
      ∀ b ∈ path.guards.bindings, b.outcome (on.fuser.mode true) plain = .ok true) ∧
    .fallback broadcast ∉ (path.executeLogged off.fuser host true fallback broadcast () []).value.state.2 ∧
    (path.execute alone.fuser host true fallback plain ()).value.stack = plain ∧
    (on.after run).fuser.metrics.fallbacks = 1 := by
  intro host path fallback backend engine plain broadcast on off alone run
  have ran : (path.executeLogged on.fuser host true fallback plain () []).value.state.2 = [.run path.group plain] := rfl
  have called : .run path.group plain ∈ (path.executeLogged on.fuser host true fallback plain () []).value.state.2 :=
    ran ▸ List.mem_singleton_self _
  obtain ⟨-, -, passes, -, -, -, -, fallbacks⟩ := guarded_dispatch on path host true fallback plain run
  obtain ⟨-, -, -, forgone, -, -, -, -⟩ := guarded_dispatch off path host true fallback broadcast []
  obtain ⟨-, -, -, -, -, kept, -, -⟩ := guarded_dispatch alone path host true fallback plain []
  exact ⟨⟨called, passes rfl called⟩, (forgone rfl).1 _, (kept (.inr ⟨rfl, rfl⟩)).1, fallbacks.trans rfl⟩

end Engine

end FusionGuards
