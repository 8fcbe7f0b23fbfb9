import FusionGuards.Fuser.Dispatch
import FusionGuards.Proofs.Accounting
import FusionGuards.Proofs.Enablement

namespace FusionGuards

namespace Route

def ranSpecialized : Except FuserError Route → Bool
  | .ok .specialized => true
  | _ => false

def ranFallback : Except FuserError Route → Bool
  | .ok .fallback | .error (.fallback _) => true
  | _ => false

end Route

def Tally.ofRoutes (answers : List (Except FuserError Route)) : Tally where
  fallbacks := answers.countP Route.ranFallback
  specialized := answers.countP Route.ranSpecialized

namespace Fuser

variable {f : Fuser ω} (group : Group) (stack : Stack) (s : ω)

theorem run_of_none (missing : f.backend = none) : f.run group stack s = ((.error (.noBackend .run), stack), s) := by
  rw [run, missing]
  rfl

theorem run_of_some {b : Backend ω} (installed : f.backend = some b) : f.run group stack s =
    let ((answer, left), s') := b.run group stack s
    ((answer.mapError (.backend .run), left), s') := by
  rw [run, installed]
  rcases ran : b.run group stack s with ⟨⟨_ | _, left⟩, s'⟩ <;>
    simp only [bind, StateT.bind, ran] <;> rfl

theorem run_eq_error {group : Group} {stack left : Stack} {s s' : ω} {err : FuserError}
    (failed : f.run group stack s = ((.error err, left), s')) :
    err = .noBackend .run ∨ ∃ source, err = .backend .run source := by
  cases backend : f.backend with
  | none =>
    rw [run_of_none group stack s backend] at failed
    cases failed
    exact .inl rfl
  | some b =>
    rw [run_of_some group stack s backend] at failed
    rcases ran : b.run group stack s with ⟨⟨source | _, left⟩, s'⟩ <;> simp only [ran] at failed <;> cases failed
    exact .inr ⟨source, rfl⟩

end Fuser

namespace CachedPath

variable (p : CachedPath) (f : Fuser ω) (host : Host) (gradMode : Bool)

section Admission

variable (args : Stack)

def admission : Except FuserError Bool :=
  match f.enablement.resolve host with
  | .error err => .error err
  | .ok false => .ok true
  | .ok true =>
    match (p.guards.evaluate (f.mode gradMode) args).run.value with
    | .error fault => .error (.guard fault)
    | .ok .pass => .ok true
    | .ok (.fail _ _) => .ok false

def evaluations : List Evaluation :=
  match (f.enablement.isEnabled host).value.1 with
  | .ok true => Chain.evaluations (f.mode gradMode) args p.guards.bindings
  | _ => []

theorem value_admits : (p.admits f host gradMode args).value =
    (p.admission f host gradMode args, f.enablement.resolved host) := by
  simp only [admits, admission, Report.value_bind, Enablement.value_isEnabled]
  cases f.enablement.resolve host with
  | error err => rfl
  | ok enabled =>
    cases enabled with
    | false => rfl
    | true =>
      rw [Report.value_bind]
      rcases (p.guards.evaluate (f.mode gradMode) args).run.value with fault | _ | ⟨index, guard⟩ <;> rfl

theorem tally_admits : (p.admits f host gradMode args).tally =
    .ofEvaluations (p.evaluations f host gradMode args) := by
  rw [admits, evaluations, Report.tally_bind, Enablement.value_isEnabled, f.enablement.uncounted_isEnabled host,
    Tally.zero_add]
  cases f.enablement.resolve host with
  | error err => rfl
  | ok enabled =>
    cases enabled with
    | false => rfl
    | true =>
      rw [Report.tally_bind, Chain.tally_evaluate]
      rcases (p.guards.evaluate (f.mode gradMode) args).run.value with fault | _ | ⟨index, guard⟩ <;> rfl

theorem admission_eq_error {err : FuserError} (failed : p.admission f host gradMode args = .error err) :
    err = .incapable ∨ ∃ fault, err = .guard fault := by
  rw [admission] at failed
  split at failed
  case h_1 refused =>
    obtain rfl := Except.error.inj failed
    exact .inl (Except.error.inj (refused.symm.trans (f.enablement.resolve_of_refuses host
      (f.enablement.refuses_of_resolve_eq_error host refused))))
  case h_2 => cases failed
  case h_3 =>
    split at failed
    case h_1 fault _ => exact .inr ⟨fault, (Except.error.inj failed).symm⟩
    case h_2 => cases failed
    case h_3 => cases failed

theorem admission_of_disabled (disabled : f.enablement.resolve host = .ok false) :
    p.admission f host gradMode args = .ok true := by
  rw [admission, disabled]

theorem evaluations_of_disabled (disabled : f.enablement.resolve host = .ok false) :
    p.evaluations f host gradMode args = [] := by
  rw [evaluations, Enablement.value_isEnabled, disabled]

theorem admission_eq_true_iff (enabled : f.enablement.resolve host = .ok true) :
    p.admission f host gradMode args = .ok true ↔
      ∀ b ∈ p.guards.bindings, b.outcome (f.mode gradMode) args = .ok true := by
  rw [admission, enabled, ← Chain.value_evaluateFrom_eq_pass_iff (f.mode gradMode) args 0, Chain.evaluate]
  rcases (Chain.evaluateFrom (f.mode gradMode) args 0 p.guards.bindings).run.value with fault | _ | ⟨index, guard⟩ <;>
    simp

end Admission

section Dispatch

variable (fallback : Stack → StateM ω (Except String Unit × Stack)) (stack : Stack) (s : ω)

theorem value_execute : (p.execute f host gradMode fallback stack s).value =
    match p.admission f host gradMode stack with
    | .error err => ⟨.error err, f.enablement.resolved host, stack, s⟩
    | .ok true =>
      let ((answer, left), s') := f.run p.group stack s
      ⟨answer.map fun _ => .specialized, f.enablement.resolved host, left, s'⟩
    | .ok false =>
      let ((answer, left), s') := fallback stack s
      ⟨(answer.mapError .fallback).map fun _ => .fallback, f.enablement.resolved host, left, s'⟩ := by
  rw [execute, Report.value_bind, value_admits]
  cases p.admission f host gradMode stack with
  | error err => rfl
  | ok admitted =>
    cases admitted with
    | true => rcases f.run p.group stack s with ⟨⟨_ | _, left⟩, s'⟩ <;> rfl
    | false => rcases fallback stack s with ⟨⟨_ | _, left⟩, s'⟩ <;> rfl

theorem tally_execute : (p.execute f host gradMode fallback stack s).tally =
    .ofEvaluations (p.evaluations f host gradMode stack) +
      .ofRoutes [(p.execute f host gradMode fallback stack s).value.answer] := by
  rw [value_execute, execute, Report.tally_bind, tally_admits, value_admits]
  congr 1
  cases admission : p.admission f host gradMode stack with
  | error err => obtain rfl | ⟨fault, rfl⟩ := p.admission_eq_error f host gradMode stack admission <;> rfl
  | ok admitted =>
    cases admitted with
    | true =>
      rcases ran : f.run p.group stack s with ⟨⟨err | _, left⟩, s'⟩
      · obtain rfl | ⟨source, rfl⟩ := f.run_eq_error ran <;> rfl
      · rfl
    | false => rcases fallback stack s with ⟨⟨_ | _, left⟩, s'⟩ <;> rfl

end Dispatch

end CachedPath

end FusionGuards
