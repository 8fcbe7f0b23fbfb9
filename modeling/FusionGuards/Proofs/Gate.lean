import FusionGuards.Fuser.Basic
import FusionGuards.Proofs.Verdict
import Mathlib.Data.List.Basic

namespace FusionGuards

namespace Attempt

theorem value_bind (x : Attempt ε α) (f : α → Attempt ε β) :
    (x >>= f).run.value = x.run.value >>= fun a => (f a).run.value := by
  rw [ExceptT.run_bind, Report.value_bind]
  cases x.run.value <;> rfl

theorem value_ofExcept (x : Except ε α) : (ofExcept x).run.value = x := by
  rw [run_ofExcept, Report.value_pure]

end Attempt

namespace Guard

section Answers

variable (mode : Mode)

theorem value_record (guard : GuardKind) (passed : Bool) : (record guard passed).value = passed := by
  cases passed <;> rfl

theorem value_gate (guard : GuardKind) (check : Attempt Fault Bool) :
    (gate mode guard check).run.value = if mode.guards then check.run.value else .ok true := by
  rw [gate]
  split
  · rw [Attempt.value_bind]
    refine Eq.trans (bind_congr fun passed => ?_) (bind_pure _)
    exact congrArg Except.ok (value_record guard passed)
  · rfl

/-- What a view guard makes of its arguments before guard mode counts: the sizes, and what the request for them resolves
to. -/
def resolution (sizes requested : Value) : Except Fault (Option (List Int64 × List Int64)) := do
  let sizes ← sizes.expectInts .view "tensor_sizes"
  let requested ← requested.expectInts .view "view_sizes"
  let resolved? ← (View.infer sizes requested).run.value
  return resolved?.map (sizes, ·)

theorem resolution_eq_none_iff {sizes requested : Value} : resolution sizes requested = .ok none ↔
    ∃ xs ys, sizes = .intList xs ∧ requested = .intList ys ∧ (View.infer xs ys).run.value = .ok none := by
  constructor
  · intro infeasible
    cases sizes with
    | intList xs =>
      cases requested with
      | intList ys =>
        refine ⟨xs, ys, rfl, rfl, ?_⟩
        rcases answer : (View.infer xs ys).run.value with fault | _ | resolved <;>
          simp [resolution, Value.expectInts, bind, Except.bind, pure, Except.pure, answer] at infeasible ⊢
      | _ => cases infeasible
    | _ => cases infeasible
  · rintro ⟨xs, ys, rfl, rfl, infeasible⟩
    simp [resolution, Value.expectInts, bind, Except.bind, pure, Except.pure, infeasible]

theorem value_checkView (c : ViewConstraint) (sizes requested : Value) :
    (checkView mode c sizes requested).run.value = (resolution sizes requested).map fun
      | none => false
      | some (sizes, resolved) => !mode.guards || (c.check sizes resolved).value := by
  change _ = _ <$> resolution sizes requested
  simp only [checkView, resolution, Attempt.value_bind, Attempt.value_ofExcept, map_bind, map_pure]
  refine bind_congr fun sizes => bind_congr fun requested => bind_congr fun resolved? => ?_
  cases resolved? with
  | none => rfl
  | some resolved =>
    refine (value_gate mode .view _).trans ?_
    cases mode.guards <;> rfl

theorem check_of_length_ne {g : Guard} {args : List Value} (miscounted : args.length ≠ g.arity) :
    g.check mode args = fault g.kind (.argumentCount g.arity args.length) := if_pos miscounted

theorem check_tensor {signatures : List Signature} {inputs : List Value} (count : inputs.length = signatures.length) :
    (tensor signatures).check mode inputs = gate mode .tensor (tensorsComply mode.gradient signatures inputs) :=
  if_neg fun miscounted => miscounted count

end Answers

section Bypass

variable {gradMode : Bool} {g : Guard} {args : List Value}

theorem value_check_bypassed (count : args.length = g.arity) (other : ∀ c, g ≠ view c) :
    (g.check ⟨false, gradMode⟩ args).run.value = .ok true := by
  cases g with
  | tensor signatures =>
    rw [check_tensor _ count]
    exact value_gate ⟨false, gradMode⟩ .tensor _
  | view c => exact absurd rfl (other c)
  | value =>
    obtain ⟨lhs, rhs, rfl⟩ := List.length_eq_two.1 count
    rfl
  | sizeEq =>
    obtain ⟨input, reference, rfl⟩ := List.length_eq_two.1 count
    rfl

theorem value_checkView_bypassed (c : ViewConstraint) (sizes requested : Value) :
    (checkView ⟨false, gradMode⟩ c sizes requested).run.value =
      (resolution sizes requested).map Option.isSome := by
  rw [value_checkView]
  rcases resolution sizes requested with fault | _ | resolved <;> rfl

theorem value_check_view_bypassed_eq_false_iff {c : ViewConstraint} (count : args.length = 2) :
    ((view c).check ⟨false, gradMode⟩ args).run.value = .ok false ↔ ∃ sizes requested,
      args = [.intList sizes, .intList requested] ∧ (View.infer sizes requested).run.value = .ok none := by
  obtain ⟨sizes, requested, rfl⟩ := List.length_eq_two.1 count
  have answer : ((view c).check ⟨false, gradMode⟩ [sizes, requested]).run.value =
      (resolution sizes requested).map Option.isSome := value_checkView_bypassed c sizes requested
  have infeasible : (resolution sizes requested).map Option.isSome = .ok false ↔
      resolution sizes requested = .ok none := by
    rcases resolution sizes requested with fault | _ | resolved <;> simp [Except.map]
  rw [answer, infeasible, resolution_eq_none_iff]
  simp [and_assoc]

theorem bypassed_or_same : (g.check ⟨false, gradMode⟩ args).run.value = .ok true ∨
    (g.check ⟨false, gradMode⟩ args).run.value = (g.check ⟨true, gradMode⟩ args).run.value := by
  by_cases count : args.length = g.arity
  · by_cases views : ∃ c, g = view c
    · obtain ⟨c, rfl⟩ := views
      obtain ⟨sizes, requested, rfl⟩ := List.length_eq_two.1 count
      change (checkView _ c sizes requested).run.value = _ ∨ (checkView _ c sizes requested).run.value =
        (checkView _ c sizes requested).run.value
      rw [value_checkView, value_checkView]
      rcases resolution sizes requested with fault | _ | resolved
      · exact .inr rfl
      · exact .inr rfl
      · exact .inl rfl
    · exact .inl (value_check_bypassed count (not_exists.1 views))
  · rw [check_of_length_ne _ count, check_of_length_ne _ count]
    exact .inr rfl

end Bypass

end Guard

theorem Binding.outcome_bypassed {gradMode : Bool} {args : List Value} {b : Binding}
    (passes : b.outcome ⟨true, gradMode⟩ args = .ok true) : b.outcome ⟨false, gradMode⟩ args = .ok true := by
  rw [outcome] at passes ⊢
  split at passes
  case h_1 => cases passes
  case h_2 => exact Guard.bypassed_or_same.elim id fun same => same.trans passes

namespace Fuser

/-- Turning guard mode off only weakens guards, and of those that have their arguments only a view guard still fails. -/
theorem setGuardMode_weakens (f : Fuser ω) (gradMode : Bool) (g : Guard) (args : List Value) :
    let on := (f.setGuardMode true).value.2.mode gradMode
    let off := (f.setGuardMode false).value.2.mode gradMode
    let guarded := (g.check on args).run.value
    let bypassed := (g.check off args).run.value
    (guarded = .ok true → bypassed = .ok true) ∧
    (bypassed = .ok false → guarded = .ok false) ∧
    (∀ fault, bypassed = .error fault → guarded = .error fault) ∧
    (args.length = g.arity →
      ((∀ c, g ≠ .view c) → bypassed = .ok true) ∧
      ∀ c, g = .view c → (bypassed = .ok false ↔ ∃ sizes requested,
        args = [.intList sizes, .intList requested] ∧ (View.infer sizes requested).run.value = .ok none)) ∧
    ∀ c : Chain, (c.evaluate on args).run.value = .ok .pass → (c.evaluate off args).run.value = .ok .pass := by
  intro on off guarded bypassed
  have weaker : bypassed = .ok true ∨ bypassed = guarded := Guard.bypassed_or_same
  refine ⟨fun passes => ?_, fun fails => ?_, fun fault faulty => ?_, fun count => ⟨?_, ?_⟩, fun c passes => ?_⟩
  · exact weaker.elim id fun same => same.trans passes
  · rcases weaker with passes | same
    · simp [passes] at fails
    · exact same.symm.trans fails
  · rcases weaker with passes | same
    · simp [passes] at faulty
    · exact same.symm.trans faulty
  · exact Guard.value_check_bypassed count
  · rintro c rfl
    exact Guard.value_check_view_bypassed_eq_false_iff count
  · have each := (Chain.value_evaluateFrom_eq_pass_iff on args 0 c.bindings).1 passes
    rw [Chain.evaluate, Chain.value_evaluateFrom_eq_pass_iff]
    exact fun b mem => Binding.outcome_bypassed (each b mem)

theorem setGuardMode_weakens_malformed :
    let f : Fuser Unit := .ofConfig {}
    let off := (f.setGuardMode false).value.2.mode true
    let malformed : Guard := .tensor [{ rank := none }]
    let reshape : Guard := .view (.ofRaw [-1] [-1])
    let chain : Chain := ⟨[⟨.sizeEq, [1, 0]⟩]⟩
    let sizes : List Value := [.intList [6], .intList [4]]
    (malformed.check off [.str "six"]).run.value = .ok true ∧
      (reshape.check off sizes).run.value = .ok false ∧
      (reshape.check ((f.setGuardMode true).value.2.mode true) sizes).run.value = .ok false ∧
      (chain.evaluate off sizes).run.value = .ok .pass := by
  intro f off malformed reshape chain sizes
  obtain ⟨-, -, -, unasked, -⟩ := f.setGuardMode_weakens true malformed [.str "six"]
  obtain ⟨-, fails, -, resolved, chains⟩ := f.setGuardMode_weakens true reshape sizes
  have infeasible : (reshape.check off sizes).run.value = .ok false :=
    ((resolved rfl).2 _ rfl).2 ⟨[6], [4], rfl, by rfl⟩
  exact ⟨(unasked rfl).1 (by simp [malformed]), infeasible, fails infeasible, chains chain rfl⟩

end Fuser

end FusionGuards
