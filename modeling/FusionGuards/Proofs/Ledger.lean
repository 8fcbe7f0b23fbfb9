import FusionGuards.Proofs.Admission
import FusionGuards.Proofs.History

namespace FusionGuards

namespace Tally

def ofRecord (log : List Evaluation) (routes : List (Except FuserError Route)) : Tally :=
  ofEvaluations log + ofRoutes routes

theorem ofRecord_append (log more : List Evaluation) (routes others : List (Except FuserError Route)) :
    ofRecord (log ++ more) (routes ++ others) = ofRecord log routes + ofRecord more others := by
  simp [ofRecord, ofEvaluations, ofRoutes, add_def]

theorem specialized_ofRecord (log : List Evaluation) (routes : List (Except FuserError Route)) :
    (ofRecord log routes).specialized = routes.countP Route.ranSpecialized := Nat.zero_add _

theorem fallbacks_ofRecord (log : List Evaluation) (routes : List (Except FuserError Route)) :
    (ofRecord log routes).fallbacks = routes.countP Route.ranFallback := Nat.zero_add _

end Tally

def Enablement.Call.report (call : Enablement.Call) (e : Enablement) (host : Host) : Report Enablement :=
  match call with
  | .isEnabled => Prod.snd <$> e.isEnabled host
  | .setEnabled enabled => Prod.snd <$> e.setEnabled host enabled
  | .readDefault => Prod.snd <$> e.readDefault host.environment
  | .readForced => Prod.snd <$> e.readForced host.environment
  | .assigned => pure e

structure Engine (ω : Type) where
  fuser : Fuser ω
  state : ω

namespace Engine

inductive Query
  | guard (g : Guard) (args : List Value)
  | chain (c : Chain) (args : List Value)
  | tensors (signatures : List Signature) (inputs : List Value)
  | rawView (inputs : List Value)
  | values (lhs rhs : Value)
  | sizes (input reference : Value)

inductive Action (ω : Type)
  | query (q : Query)
  | admission (p : CachedPath) (args : Stack)
  | execute (p : CachedPath) (fallback : Stack → StateM ω (Except String Unit × Stack)) (stack : Stack)
  | setGuardMode (enabled : Bool)
  | setSingletonFusion (enabled : Bool)
  | setHorizontalFusion (enabled : Bool)
  | enablement (call : Enablement.Call)
  | install (b : Backend ω)
  | remove
  | compile (group : Group)
  | run (group : Group) (stack : Stack)
  | canFuse (node : Node)
  | profile (node : Node)
  | skip (symbol : String) (flip : Bool)

structure Moment (ω : Type) where
  action : Action ω
  host : Host
  gradMode : Bool

def Query.report (mode : Mode) : Query → Report Unit
  | guard g args => discard (g.check mode args).run
  | chain c args => discard (c.evaluate mode args).run
  | tensors signatures inputs => discard (Guard.checkTensors mode signatures inputs).run
  | rawView inputs => discard (Guard.checkRawView mode inputs).run
  | values lhs rhs => discard (Guard.checkValues mode lhs rhs)
  | sizes input reference => discard (Guard.checkSizes mode input reference).run

/-- The evaluations of single guards that a question comes to. -/
def Query.evaluations (mode : Mode) : Query → List Evaluation
  | guard g args => [⟨mode.guards, (g.check mode args).run.value⟩]
  | chain c args => Chain.evaluations mode args c.bindings
  | tensors signatures inputs => [⟨mode.guards, (Guard.checkTensors mode signatures inputs).run.value⟩]
  | rawView inputs => [⟨mode.guards, (Guard.checkRawView mode inputs).run.value⟩]
  | values lhs rhs => [⟨mode.guards, .ok (Guard.checkValues mode lhs rhs).value⟩]
  | sizes input reference => [⟨mode.guards, (Guard.checkSizes mode input reference).run.value⟩]

variable (e : Engine ω) (m : Moment ω)

def withEnablement (enablement : Enablement) : Engine ω := { e with fuser := { e.fuser with enablement } }

/-- What a call makes of the engine, the counters apart. -/
def act : Report (Engine ω) :=
  match m.action with
  | .query q => do
    q.report (e.fuser.mode m.gradMode)
    return e
  | .admission p args => do
    let (_, enablement) ← p.admits e.fuser m.host m.gradMode args
    return e.withEnablement enablement
  | .execute p fallback stack => do
    let d ← p.execute e.fuser m.host m.gradMode fallback stack e.state
    return { e.withEnablement d.enablement with state := d.state }
  | .setGuardMode enabled => do
    let (_, fuser) ← e.fuser.setGuardMode enabled
    return { e with fuser }
  | .setSingletonFusion enabled => return { e with fuser := { e.fuser with singletonFusion := enabled } }
  | .setHorizontalFusion enabled => return { e with fuser := { e.fuser with horizontalFusion := enabled } }
  | .enablement call => do
    let enablement ← call.report e.fuser.enablement m.host
    return e.withEnablement enablement
  | .install b => return { e with fuser := { e.fuser with backend := some b } }
  | .remove => return { e with fuser := { e.fuser with backend := none } }
  | .compile group => return { e with state := (e.fuser.compile group e.state).2 }
  | .run group stack => return { e with state := (e.fuser.run group stack e.state).2 }
  | .canFuse node => return { e with state := (e.fuser.canFuse node e.state).2 }
  | .profile node => return { e with state := (e.fuser.profile node e.state).2 }
  | .skip symbol flip => return { e with state := (e.fuser.skip symbol flip e.state).2 }

def next : Engine ω :=
  let r := e.act m
  { r.value with fuser := r.value.fuser.count r.tally }

def after (run : List (Moment ω)) : Engine ω := run.foldl next e

structure Entry where
  evaluations : List Evaluation
  route? : Option (Except FuserError Route)

def entry : Entry :=
  match m.action with
  | .query q => ⟨q.evaluations (e.fuser.mode m.gradMode), none⟩
  | .admission p args => ⟨p.evaluations e.fuser m.host m.gradMode args, none⟩
  | .execute p fallback stack =>
    ⟨p.evaluations e.fuser m.host m.gradMode stack,
      some (p.execute e.fuser m.host m.gradMode fallback stack e.state).value.answer⟩
  | _ => ⟨[], none⟩

def record (e : Engine ω) : List (Moment ω) → List Entry
  | [] => []
  | m :: run => e.entry m :: (e.next m).record run

theorem Query.tally_report (mode : Mode) (q : Query) : (q.report mode).tally = .ofEvaluations (q.evaluations mode) := by
  cases q with
  | guard g args => exact g.counted_check mode args
  | chain c args => exact c.tally_evaluate mode args
  | tensors signatures inputs => exact Guard.counted_checkTensors mode signatures inputs
  | rawView inputs => exact Guard.counted_checkRawView mode inputs
  | values lhs rhs => exact Guard.counted_checkValues mode lhs rhs
  | sizes input reference => exact Guard.counted_checkSizes mode input reference

theorem tally_act : (e.act m).tally = .ofRecord (e.entry m).evaluations (e.entry m).route?.toList := by
  obtain ⟨action, host, gradMode⟩ := m
  cases action with
  | query q => exact q.tally_report _
  | admission p args => exact p.tally_admits e.fuser host gradMode args
  | execute p fallback stack => exact p.tally_execute e.fuser host gradMode fallback stack e.state
  | enablement call =>
    cases call with
    | isEnabled => exact e.fuser.enablement.uncounted_isEnabled host
    | setEnabled enabled => exact e.fuser.enablement.uncounted_setEnabled host enabled
    | readDefault => exact e.fuser.enablement.uncounted_readDefault _
    | readForced => exact e.fuser.enablement.uncounted_readForced _
    | assigned => rfl
  | _ => rfl

theorem metrics_act : (e.act m).value.fuser.metrics = e.fuser.metrics := by
  obtain ⟨action, host, gradMode⟩ := m
  cases action <;> rfl

theorem metrics_next : (e.next m).fuser.metrics =
    e.fuser.metrics + .ofRecord (e.entry m).evaluations (e.entry m).route?.toList := by
  change (e.act m).value.fuser.metrics + (e.act m).tally = _
  rw [metrics_act, tally_act]

theorem metrics_after (run : List (Moment ω)) : (e.after run).fuser.metrics =
    e.fuser.metrics + .ofRecord ((e.record run).flatMap Entry.evaluations) ((e.record run).filterMap Entry.route?) := by
  induction run generalizing e with
  | nil => rfl
  | cons m run ih =>
    have first : (e.after (m :: run)) = (e.next m).after run := rfl
    rw [first, ih, metrics_next, Tally.add_assoc, ← Tally.ofRecord_append, record, List.flatMap_cons]
    cases h : (e.entry m).route? <;> simp [h]

theorem next_query (q : Query) (host : Host) (gradMode : Bool) :
    e.next ⟨.query q, host, gradMode⟩ =
      { e with fuser := e.fuser.count (.ofEvaluations (q.evaluations (e.fuser.mode gradMode))) } := by
  rw [next, tally_act]
  rfl

/-- The counters of guards grow by the evaluations on record, and a fault is counted nowhere. -/
theorem guard_counters_after (run : List (Moment ω)) :
    let log := (e.record run).flatMap Entry.evaluations
    let before := e.fuser.metrics
    let metrics := (e.after run).fuser.metrics
    metrics.failed = before.failed + log.countP Evaluation.failed ∧
    metrics.passed = before.passed + log.countP Evaluation.passed ∧
    metrics.bypassed = before.bypassed + log.countP Evaluation.bypassed ∧
    ∀ (q : Query) (host : Host) (gradMode : Bool),
      let asked := q.evaluations (e.fuser.mode gradMode)
      e.next ⟨.query q, host, gradMode⟩ =
        { e with fuser := { e.fuser with metrics := { before with
          passed := before.passed + asked.countP Evaluation.passed
          failed := before.failed + asked.countP Evaluation.failed
          bypassed := before.bypassed + asked.countP Evaluation.bypassed } } } := by
  intro log before metrics
  have grown : metrics = before + .ofRecord log ((e.record run).filterMap Entry.route?) := e.metrics_after run
  refine ⟨?_, ?_, ?_, fun q host gradMode => e.next_query q host gradMode⟩
  · rw [grown]
    rfl
  · rw [grown]
    rfl
  · rw [grown]
    rfl

end Engine

end FusionGuards
