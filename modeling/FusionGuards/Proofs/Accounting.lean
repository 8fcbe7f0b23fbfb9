import FusionGuards.Fuser.Enablement
import FusionGuards.Proofs.Verdict

namespace FusionGuards

structure Evaluation where
  guardMode : Bool
  outcome : Except Fault Bool

namespace Evaluation

def answers (answer : Bool) (v : Evaluation) : Bool :=
  match v.outcome with
  | .ok b => b == answer
  | .error _ => false

def passed (v : Evaluation) : Bool := v.guardMode && v.answers true

def bypassed (v : Evaluation) : Bool := !v.guardMode && v.answers true

def failed (v : Evaluation) : Bool := v.answers false

end Evaluation

namespace Tally

def ofEvaluations (log : List Evaluation) : Tally where
  passed := log.countP Evaluation.passed
  failed := log.countP Evaluation.failed
  bypassed := log.countP Evaluation.bypassed

@[simp] theorem ofEvaluations_nil : ofEvaluations [] = 0 := rfl

theorem ofEvaluations_append (log more : List Evaluation) :
    ofEvaluations (log ++ more) = ofEvaluations log + ofEvaluations more := by
  simp [ofEvaluations, add_def]

theorem ofEvaluations_cons (v : Evaluation) (log : List Evaluation) :
    ofEvaluations (v :: log) = ofEvaluations [v] + ofEvaluations log := ofEvaluations_append [v] log

@[simp] theorem ofEvaluations_error (guardMode : Bool) (f : Fault) : ofEvaluations [⟨guardMode, .error f⟩] = 0 := by
  cases guardMode <;> rfl

end Tally

def Report.Uncounted (r : Report α) : Prop := r.tally = 0

namespace Report.Uncounted

theorem pure (a : α) : Uncounted (Pure.pure a) := rfl

theorem bind {r : Report α} {f : α → Report β} (first : r.Uncounted) (second : ∀ a, (f a).Uncounted) :
    (r >>= f).Uncounted := by
  rw [Uncounted, tally_bind, first, second, Tally.add_zero]

theorem run_bind {x : Attempt ε α} {f : α → Attempt ε β} (first : x.run.Uncounted)
    (second : ∀ a, (f a).run.Uncounted) : (x >>= f).run.Uncounted := by
  rw [ExceptT.run_bind]
  refine first.bind fun result => ?_
  cases result with
  | ok a => exact second a
  | error e => exact pure _

end Report.Uncounted

open Report (Uncounted)

theorem uncounted_ofExcept (x : Except ε α) : (Attempt.ofExcept x).run.Uncounted := by
  rw [Attempt.run_ofExcept]
  exact .pure x

namespace Signature

theorem uncounted_reject (e : Event) : (reject e).run.Uncounted := rfl

theorem uncounted_fault (c : Cause) : (fault c).run.Uncounted := rfl

theorem uncounted_checkFrom (t : Tensor) (w : Walk) (position : Nat) (afterUnknown : Bool) (slots : List StrideSlot)
    (recorded : List (Option Int64)) (sizes : List Int64) :
    (checkFrom t w position afterUnknown slots recorded sizes).run.Uncounted := by
  fun_induction checkFrom with
  | case1 => exact uncounted_fault _
  | case2 => exact uncounted_reject _
  | case3 => exact uncounted_reject _
  | case4 => assumption
  | case5 => exact .pure _

theorem uncounted_complies (s : Signature) (t : Tensor) (gradMode : Bool) : (s.complies t gradMode).run.Uncounted := by
  fun_cases complies s t gradMode with
  | case1 => exact uncounted_fault _
  | case6 => exact uncounted_fault _
  | case7 => exact uncounted_checkFrom ..
  | _ => exact uncounted_reject _

end Signature

namespace ViewConstraint

theorem uncounted_checkTensor (queue : List Int64) (product : Int64) (rules : List AxisRule) (sizes : List Int64) :
    (checkTensor queue product rules sizes).Uncounted := by
  fun_induction checkTensor with
  | case2 => assumption
  | case5 => assumption
  | _ => rfl

theorem uncounted_checkView (queue : List Int64) (product : Int64) (rules : List AxisRule) (sizes : List Int64) :
    (checkView queue product rules sizes).Uncounted := by
  fun_induction checkView with
  | case4 => assumption
  | _ => rfl

theorem uncounted_check (c : ViewConstraint) (sizes view : List Int64) : (c.check sizes view).Uncounted := by
  rw [check]
  split
  · rfl
  · refine (uncounted_checkTensor ..).bind fun found => ?_
    cases found with
    | none => exact .pure _
    | some found =>
      refine (uncounted_checkView ..).bind fun elements => ?_
      cases elements <;> exact .pure _

end ViewConstraint

theorem View.uncounted_infer (sizes view : List Int64) : (infer sizes view).run.Uncounted := by
  refine (uncounted_ofExcept _).run_bind fun found => ?_
  split
  · split <;> rfl
  · exact .pure _

namespace Guard

theorem uncounted_tensorsComply (gradMode : Bool) (signatures : List Signature) (values : List Value) :
    (tensorsComply gradMode signatures values).run.Uncounted := by
  fun_induction tensorsComply with
  | case1 => rfl
  | case2 =>
    refine (Signature.uncounted_complies ..).run_bind fun passed => ?_
    cases passed with
    | true => assumption
    | false => exact .pure _
  | case3 => exact .pure _

end Guard

/-- What a report adds to the counters is what its answer is worth. -/
def Counted (mode : Mode) (r : Report (Except Fault Bool)) : Prop :=
  r.tally = .ofEvaluations [⟨mode.guards, r.value⟩]

namespace Guard

variable (mode : Mode)

theorem counted_fault (guard : GuardKind) (c : Cause) : Counted mode (fault guard c).run :=
  (Tally.ofEvaluations_error mode.guards ⟨guard, c⟩).symm

theorem counted_bind {x : Attempt Fault α} {f : α → Attempt Fault Bool} (first : x.run.Uncounted)
    (second : ∀ a, Counted mode (f a).run) : Counted mode (x >>= f).run := by
  rw [Counted, ExceptT.run_bind, Report.tally_bind, Report.value_bind, first, Tally.zero_add]
  cases x.run.value with
  | ok a => exact second a
  | error e => exact (Tally.ofEvaluations_error mode.guards e).symm

theorem counted_record (guard : GuardKind) {passed : Bool} (on : mode.guards = true ∨ passed = false) :
    Counted mode (liftM (record guard passed) : Attempt Fault Bool).run := by
  cases passed with
  | true =>
    have guards : mode.guards = true := by simpa using on
    rw [Counted, guards]
    rfl
  | false => cases h : mode.guards <;> (rw [Counted, h]; rfl)

theorem counted_gate (guard : GuardKind) {check : Attempt Fault Bool} (uncounted : check.run.Uncounted) :
    Counted mode (gate mode guard check).run := by
  rw [gate]
  cases on : mode.guards with
  | true => exact counted_bind mode uncounted fun passed => counted_record mode guard (.inl on)
  | false =>
    rw [Counted, on]
    rfl

theorem counted_checkView (c : ViewConstraint) (sizes requested : Value) :
    Counted mode (checkView mode c sizes requested).run := by
  refine counted_bind mode (uncounted_ofExcept _) fun sizes => ?_
  refine counted_bind mode (uncounted_ofExcept _) fun requested => ?_
  refine counted_bind mode (View.uncounted_infer ..) fun resolved => ?_
  cases resolved with
  | none => exact counted_record mode .view (.inr rfl)
  | some resolved => exact counted_gate mode .view (c.uncounted_check sizes resolved)

theorem counted_check (g : Guard) (args : List Value) : Counted mode (g.check mode args).run := by
  fun_cases check mode g args with
  | case1 => exact counted_fault ..
  | case2 => exact counted_gate mode .tensor (uncounted_tensorsComply ..)
  | case3 => exact counted_checkView ..
  | case4 => exact counted_gate mode .value (.pure _)
  | case5 => exact counted_gate mode .sizeEq (uncounted_ofExcept _)
  | case6 => exact counted_fault ..

theorem counted_checkTensors (signatures : List Signature) (inputs : List Value) :
    Counted mode (checkTensors mode signatures inputs).run := by
  rw [checkTensors]
  split
  · exact counted_fault ..
  · exact counted_gate mode .tensor (uncounted_tensorsComply ..)

theorem counted_checkRawView (inputs : List Value) : Counted mode (checkRawView mode inputs).run := by
  fun_cases checkRawView mode inputs with
  | case1 sizes requested inputRules viewRules =>
    refine counted_bind mode (uncounted_ofExcept _) fun inputRules => ?_
    refine counted_bind mode (uncounted_ofExcept _) fun viewRules => ?_
    exact counted_checkView ..
  | case2 => exact counted_fault ..

theorem counted_checkSizes (input reference : Value) : Counted mode (checkSizes mode input reference).run :=
  counted_gate mode .sizeEq (uncounted_ofExcept _)

theorem counted_checkValues (lhs rhs : Value) : Counted mode (Except.ok <$> checkValues mode lhs rhs) := by
  rw [checkValues]
  cases on : mode.guards with
  | true => exact counted_record mode .value (.inl on)
  | false =>
    rw [Counted, on]
    rfl

end Guard

namespace Binding

variable (mode : Mode) (args : List Value) (b : Binding)

def evaluation : Evaluation := ⟨mode.guards, b.outcome mode args⟩

theorem counted_check : Counted mode (b.check mode args).run := by
  rw [check]
  split
  · exact Guard.counted_fault ..
  · exact Guard.counted_check ..

theorem tally_check : (b.check mode args).run.tally = .ofEvaluations [b.evaluation mode args] := by
  rw [evaluation, ← value_check]
  exact b.counted_check mode args

end Binding

namespace Chain

variable (mode : Mode) (args : List Value)

def reached (bs : List Binding) : List Binding :=
  bs.take (bs.findIdx (fun b => !(b.evaluation mode args).answers true) + 1)

def evaluations (bs : List Binding) : List Evaluation := (reached mode args bs).map (·.evaluation mode args)

theorem evaluations_cons (b : Binding) (rest : List Binding) :
    evaluations mode args (b :: rest) =
      b.evaluation mode args :: if (b.evaluation mode args).answers true then evaluations mode args rest else [] := by
  cases passed : (b.evaluation mode args).answers true <;>
    simp [evaluations, reached, List.findIdx_cons, passed]

theorem tally_evaluateFrom (index : Nat) (bs : List Binding) :
    (evaluateFrom mode args index bs).run.tally = .ofEvaluations (evaluations mode args bs) := by
  induction bs generalizing index with
  | nil => rfl
  | cons b rest ih =>
    rw [evaluations_cons, Tally.ofEvaluations_cons, evaluateFrom, ExceptT.run_bind, Report.tally_bind, b.tally_check,
      b.value_check]
    congr 1
    cases outcome : b.outcome mode args with
    | error fault => simp [Binding.evaluation, Evaluation.answers, outcome]
    | ok passed =>
      cases passed with
      | true => simpa [Binding.evaluation, Evaluation.answers, outcome] using ih (index + 1)
      | false => simp [Binding.evaluation, Evaluation.answers, outcome]

theorem tally_evaluate (c : Chain) :
    (c.evaluate mode args).run.tally = .ofEvaluations (evaluations mode args c.bindings) :=
  tally_evaluateFrom mode args 0 c.bindings

end Chain

namespace Enablement

variable (e : Enablement) (host : Host)

theorem uncounted_readDefault (env : Environment) : (e.readDefault env).Uncounted := by
  rw [readDefault]
  split <;> rfl

theorem uncounted_readForced (env : Environment) : (e.readForced env).Uncounted := by
  rw [readForced]
  split <;> rfl

theorem uncounted_assertCapable (capabilities : Capabilities) (enabled : Bool) :
    (assertCapable capabilities enabled).run.Uncounted := by
  rw [assertCapable]
  split <;> rfl

theorem uncounted_validate : (e.validate host).Uncounted := by
  rw [validate]
  split
  · exact .pure _
  · split
    · exact .pure _
    · refine (e.uncounted_readDefault _).bind fun default => ?_
      refine (uncounted_assertCapable ..).bind fun capable => ?_
      cases capable <;> exact .pure _

theorem uncounted_isEnabled : (e.isEnabled host).Uncounted := by
  refine (e.uncounted_validate host).bind fun validation => ?_
  split
  · exact .pure _
  · refine (uncounted_readForced ..).bind fun (forced, e) => ?_
    dsimp only
    split
    · exact .pure _
    · split
      · exact .pure _
      · exact (uncounted_readDefault ..).bind fun default => .pure _

theorem uncounted_setEnabled (enabled : Bool) : (e.setEnabled host enabled).Uncounted := by
  refine (uncounted_assertCapable ..).bind fun capable => ?_
  cases capable with
  | error err => exact .pure _
  | ok _ =>
    refine (e.uncounted_isEnabled host).bind fun answer => ?_
    split
    · rfl
    · split <;> rfl

end Enablement

end FusionGuards
