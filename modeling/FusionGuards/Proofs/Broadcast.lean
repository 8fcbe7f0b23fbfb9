import FusionGuards.Proofs.Gate
import FusionGuards.Proofs.Recording

namespace FusionGuards

def broadcastPattern (sizes : List Int64) : List Bool := sizes.map (· == 1)

theorem samePattern_iff {xs ys : List Int64} :
    samePattern xs ys = true ↔ broadcastPattern xs = broadcastPattern ys := by
  induction xs generalizing ys with
  | nil => cases ys <;> simp [samePattern, broadcastPattern]
  | cons x xs ih =>
    cases ys with
    | nil => simp [samePattern, broadcastPattern]
    | cons y ys =>
      have step : samePattern (x :: xs) (y :: ys) = (((x == 1) == (y == 1)) && samePattern xs ys) := by
        simp [samePattern, Bool.and_left_comm]
      rw [step, Bool.and_eq_true, beq_iff_eq, ih]
      exact List.cons_eq_cons.symm

theorem broadcastEqual_intList {reference : List Int64} (nonempty : reference ≠ []) (sizes : List Int64) :
    broadcastEqual (.intList sizes) (.intList reference) =
      .ok (decide (broadcastPattern sizes = broadcastPattern reference)) := by
  refine (if_neg nonempty).trans (congrArg Except.ok ?_)
  rw [Bool.eq_iff_iff, samePattern_iff, decide_eq_true_iff]

theorem broadcastEqual_equivalence :
    Equivalence fun xs ys : { sizes : List Int64 // sizes ≠ [] } =>
      broadcastEqual (.intList xs) (.intList ys) = .ok true := by
  have pattern (xs ys : { sizes : List Int64 // sizes ≠ [] }) :
      broadcastEqual (.intList xs) (.intList ys) = .ok true ↔ broadcastPattern xs = broadcastPattern ys := by
    rw [broadcastEqual_intList ys.2, Except.ok.injEq, decide_eq_true_iff]
  simp only [pattern]
  exact ⟨fun _ => rfl, Eq.symm, Eq.trans⟩

theorem Signature.broadcastPattern_eq_of_alike {xs ys : List Int64} (alike : List.Forall₂ SizeAlike xs ys) :
    broadcastPattern xs = broadcastPattern ys := by
  induction alike with
  | nil => rfl
  | @cons x y xs ys head _ ih =>
    have same : (x == 1) = (y == 1) := Bool.eq_iff_iff.2 (beq_iff_eq.trans (head.1.trans beq_iff_eq.symm))
    exact List.cons_eq_cons.2 ⟨same, ih⟩

theorem Guard.value_check_sizeEq {input reference : Value} {passed : Bool}
    (answer : broadcastEqual input reference = .ok passed) (mode : Mode) :
    (sizeEq.check mode [input, reference]).run.value = .ok (!mode.guards || passed) := by
  refine (value_gate mode .sizeEq _).trans ?_
  rw [Attempt.value_ofExcept, answer]
  cases mode.guards <;> rfl

/-- The size guard's comparison is an equivalence on sizes that are not empty, and coarser than compliance. -/
theorem broadcast_guards_agree :
    (∀ sizes reference : List Int64, reference ≠ [] → broadcastEqual (.intList sizes) (.intList reference) =
      .ok (decide (broadcastPattern sizes = broadcastPattern reference))) ∧
    (Equivalence fun xs ys : { sizes : List Int64 // sizes ≠ [] } =>
      broadcastEqual (.intList xs) (.intList ys) = .ok true) ∧
    ∀ (t u : Tensor) (g₁ g₂ : Bool), 0 < t.ndim → ((Signature.of t g₁).complies u g₂).run.value = .ok true →
      broadcastEqual (.intList u.sizes) (.intList t.sizes) = .ok true ∧
        ∀ mode, (Guard.sizeEq.check mode [.intList u.sizes, .intList t.sizes]).run.value = .ok true := by
  refine ⟨fun sizes reference nonempty => broadcastEqual_intList nonempty sizes, broadcastEqual_equivalence, ?_⟩
  intro t u g₁ g₂ rank accepted
  have fits := (Signature.value_complies_eq_true_iff.1 accepted).1
  have same := Signature.broadcastPattern_eq_of_alike fits.sizes_alike
  have answer : broadcastEqual (.intList u.sizes) (.intList t.sizes) = .ok true := by
    rw [broadcastEqual_intList (List.length_pos_iff.1 rank), decide_eq_true same.symm]
  refine ⟨answer, fun mode => ?_⟩
  rw [Guard.value_check_sizeEq answer, Bool.or_true]

theorem broadcast_guards_agree_strided :
    let t : Tensor := ⟨[2, 1, 3], [3, 3, 1], .float, .cpu, true, rfl, by simp⟩
    let u : Tensor := ⟨[4, 1, 9], [9, 70, 1], .float, .cpu, true, rfl, by simp⟩
    0 < t.ndim ∧ ((Signature.of t true).complies u true).run.value = .ok true ∧
      broadcastEqual (.intList u.sizes) (.intList t.sizes) = .ok true ∧
      broadcastEqual (.intList [4, 2, 9]) (.intList t.sizes) = .ok false := by
  intro t u
  obtain ⟨decides, -, agrees⟩ := broadcast_guards_agree
  have order : Signature.strideOrder t = t.axes.reverse :=
    Signature.strideOrder_eq (List.reverse_perm t.axes) (by decide)
  have accepted : ((Signature.of t true).complies u true).run.value = .ok true := by
    rw [Signature.of, ← Signature.strideOrder, order]
    decide
  exact ⟨by decide, accepted, (agrees t u true true (by decide) accepted).1, decides _ _ (by simp [t])⟩

end FusionGuards
