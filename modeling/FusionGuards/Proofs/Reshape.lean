import FusionGuards.Proofs.Inference
import FusionGuards.Proofs.Pairing

namespace FusionGuards

namespace View

theorem completes_refl (view : List Int64) : Completes view view := List.forall₂_same.2 fun _ _ _ => rfl

theorem requested_set_open {view : List Int64} (pos : ∀ v ∈ view, 1 ≤ v) (dim : Nat) :
    Requested (view.set dim openAxis) where
  count_le := by
    have closed := openAxis_notMem_of_pos pos
    induction view generalizing dim with
    | nil => simp
    | cons v view ih =>
      obtain ⟨head, tail⟩ := List.forall_mem_cons.1 pos
      have rest : openAxis ∉ view := fun mem => closed (List.mem_cons_of_mem v mem)
      cases dim with
      | zero => simp [List.count_eq_zero_of_not_mem rest]
      | succ dim => simpa [ne_openAxis_of_pos head] using ih tail dim rest
  pos v hv := (List.mem_or_eq_of_mem_set hv).elim (fun mem => .inr (pos v mem)) .inl

theorem completes_set_open (view : List Int64) (dim : Nat) : Completes (view.set dim openAxis) view := by
  induction view generalizing dim with
  | nil => exact .nil
  | cons v view ih =>
    cases dim with
    | zero => exact .cons (fun h => absurd rfl h) (completes_refl view)
    | succ dim => exact .cons (fun _ => rfl) (ih dim)

end View

open View

namespace ViewConstraint

def substitute (x : Nat → Int64) : List AxisRule → List Int64
  | [] => []
  | .fixed size :: rules => size :: substitute x rules
  | .dynamic :: rules => x 0 :: substitute (fun k => x (k + 1)) rules

def fixedSizes : List AxisRule → List Int64
  | [] => []
  | .fixed size :: rules => size :: fixedSizes rules
  | .dynamic :: rules => fixedSizes rules

/-- A reshape that keeps the element count whatever sizes its dynamic axes have. -/
structure Balanced (c : ViewConstraint) : Prop where
  count_eq : c.tensor.count .dynamic = c.view.count .dynamic
  tensor_pos : ∀ size ∈ fixedSizes c.tensor, 1 ≤ size
  view_pos : ∀ size ∈ fixedSizes c.view, 1 ≤ size
  total_eq : Word.total (fixedSizes c.tensor) = Word.total (fixedSizes c.view)

theorem value_evaluate_of_some {c : ViewConstraint} {sizes requested resolved : List Int64}
    (h : (infer sizes requested).run.value = .ok (some resolved)) :
    (c.evaluate sizes requested).run.value = .ok (c.check sizes resolved).value := by
  simp only [evaluate, ExceptT.run_bind, Report.value_bind, h]
  rfl

section Rules

variable {rules : List AxisRule} {sizes : List Int64}

@[simp] theorem length_substitute (x : Nat → Int64) (rules : List AxisRule) :
    (substitute x rules).length = rules.length := by
  induction rules generalizing x with
  | nil => rfl
  | cons rule rules ih => cases rule <;> simp [substitute, ih]

theorem fixedMet_substitute (x : Nat → Int64) (rules : List AxisRule) : FixedMet rules (substitute x rules) := by
  induction rules generalizing x with
  | nil => simp
  | cons rule rules ih => cases rule <;> simp [substitute, ih]

theorem dynamicSizes_substitute (x : Nat → Int64) (rules : List AxisRule) :
    dynamicSizes rules (substitute x rules) = (List.range (rules.count .dynamic)).map x := by
  induction rules generalizing x with
  | nil => rfl
  | cons rule rules ih =>
    cases rule <;> simp [substitute, dynamicSizes, ih, List.range_succ_eq_map, Function.comp_def]

theorem one_le_substitute {x : Nat → Int64} (fixed : ∀ size ∈ fixedSizes rules, 1 ≤ size)
    (dynamic : ∀ k < rules.count .dynamic, 1 ≤ x k) : ∀ size ∈ substitute x rules, 1 ≤ size := by
  induction rules generalizing x with
  | nil => simp [substitute]
  | cons rule rules ih =>
    cases rule with
    | fixed size =>
      obtain ⟨head, tail⟩ := List.forall_mem_cons.1 fixed
      exact List.forall_mem_cons.2 ⟨head, ih tail (by simpa using dynamic)⟩
    | dynamic =>
      rw [List.count_cons_self] at dynamic
      exact List.forall_mem_cons.2 ⟨dynamic 0 (by omega), ih fixed fun k hk => dynamic (k + 1) (by omega)⟩

theorem total_of_fixedMet (h : rules.length = sizes.length) (met : FixedMet rules sizes) :
    Word.total sizes = Word.total (fixedSizes rules) * Word.total (dynamicSizes rules sizes) := by
  induction rules generalizing sizes with
  | nil =>
    obtain rfl := List.length_eq_zero_iff.1 h.symm
    rfl
  | cons rule rules ih =>
    cases sizes with
    | nil => cases h
    | cons size sizes =>
      cases rule with
      | fixed expected =>
        obtain ⟨rfl, rest⟩ := fixedMet_cons_fixed.1 met
        simp [fixedSizes, dynamicSizes, ih (Nat.succ.inj h) rest, Int.mul_assoc]
      | dynamic =>
        simp [fixedSizes, dynamicSizes, ih (Nat.succ.inj h) (fixedMet_cons_dynamic.1 met), Int.mul_left_comm]

theorem eq_of_dynamicSizes_eq {others : List Int64} (h : rules.length = sizes.length)
    (ho : rules.length = others.length) (met : FixedMet rules sizes) (others_met : FixedMet rules others)
    (same : dynamicSizes rules sizes = dynamicSizes rules others) : sizes = others := by
  induction rules generalizing sizes others with
  | nil => rw [List.length_eq_zero_iff.1 h.symm, List.length_eq_zero_iff.1 ho.symm]
  | cons rule rules ih =>
    cases sizes with
    | nil => cases h
    | cons size sizes =>
      cases others with
      | nil => cases ho
      | cons other others =>
        have rest : FixedMet rules sizes → FixedMet rules others →
            dynamicSizes rules sizes = dynamicSizes rules others → sizes = others :=
          ih (Nat.succ.inj h) (Nat.succ.inj ho)
        cases rule with
        | fixed expected =>
          rw [fixedMet_cons_fixed] at met others_met
          rw [← met.1, ← others_met.1, rest met.2 others_met.2 same]
        | dynamic =>
          rw [fixedMet_cons_dynamic] at met others_met
          rw [(List.cons.inj same).1, rest met others_met (List.cons.inj same).2]

end Rules

namespace Balanced

variable {c : ViewConstraint} (h : c.Balanced) {x : Nat → Int64}

include h

theorem dynamicSizes_eq :
    dynamicSizes c.tensor (substitute x c.tensor) = dynamicSizes c.view (substitute x c.view) := by
  rw [dynamicSizes_substitute, dynamicSizes_substitute, h.count_eq]

theorem total_substitute : Word.total (substitute x c.tensor) = Word.total (substitute x c.view) := by
  rw [total_of_fixedMet (length_substitute x _).symm (fixedMet_substitute x _),
    total_of_fixedMet (length_substitute x _).symm (fixedMet_substitute x _), h.total_eq, h.dynamicSizes_eq]

theorem one_le_view (pos : ∀ k < c.tensor.count .dynamic, 1 ≤ x k) : ∀ size ∈ substitute x c.view, 1 ≤ size :=
  one_le_substitute h.view_pos (h.count_eq ▸ pos)

theorem prefixesFit_tensor (pos : ∀ k < c.tensor.count .dynamic, 1 ≤ x k)
    (fits : Word.Fits (Word.total (substitute x c.tensor))) : Word.PrefixesFit (substitute x c.tensor) :=
  (Word.prefixesFit_iff_of_pos (one_le_substitute h.tensor_pos pos)).2 fits

theorem value_check_substitute_iff (pos : ∀ k < c.tensor.count .dynamic, 1 ≤ x k)
    (fits : Word.Fits (Word.total (substitute x c.tensor))) {view : List Int64} :
    (c.check (substitute x c.tensor) view).value = true ↔ view = substitute x c.view := by
  have tensor_length := (length_substitute x c.tensor).symm
  have family_length := (length_substitute x c.view).symm
  constructor
  · intro accepted
    have view_length := (value_check_eq_true_iff.1 accepted).2.1
    obtain ⟨-, met, begins, -⟩ := (value_check_eq_true_iff_begins tensor_length view_length).1 accepted
    rw [h.dynamicSizes_eq] at begins
    -- The view has as many dynamic axes as the input, so it takes all of the queue.
    have all : dynamicSizes c.view view = dynamicSizes c.view (substitute x c.view) := by
      apply begins.eq_of_length
      rw [length_dynamicSizes view_length, length_dynamicSizes family_length]
    exact eq_of_dynamicSizes_eq view_length family_length met (fixedMet_substitute x c.view) all
  · rintro rfl
    have view_prefixes : Word.PrefixesFit (substitute x c.view) :=
      (Word.prefixesFit_iff_of_pos (h.one_le_view pos)).2 (h.total_substitute ▸ fits)
    obtain ⟨elements, ht, value⟩ := (h.prefixesFit_tensor pos fits).exists_product?
    have hv : Word.product? (substitute x c.view) = some elements :=
      Word.product?_eq_some_iff.2 ⟨value.trans h.total_substitute, view_prefixes⟩
    exact (value_check_eq_true_iff_begins tensor_length family_length).2
      ⟨fixedMet_substitute x _, fixedMet_substitute x _, h.dynamicSizes_eq ▸ List.prefix_rfl, elements, ht, hv⟩

theorem value_evaluate_of_completes (pos : ∀ k < c.tensor.count .dynamic, 1 ≤ x k)
    (fits : Word.Fits (Word.total (substitute x c.tensor))) {requested : List Int64}
    (well_formed : Requested requested) (completes : Completes requested (substitute x c.view)) :
    (c.evaluate (substitute x c.tensor) requested).run.value = .ok true := by
  have resolved := well_formed.value_infer_of_completes completes (h.one_le_view pos)
    (h.prefixesFit_tensor pos fits) h.total_substitute.symm
  rw [value_evaluate_of_some resolved, (h.value_check_substitute_iff pos fits).2 rfl]

/-- A recorded reshape holds for all sizes of its dynamic axes, whichever size of the view is left open. -/
theorem generalises (pos : ∀ k < c.tensor.count .dynamic, 1 ≤ x k)
    (fits : Word.Fits (Word.total (substitute x c.tensor))) :
    (c.evaluate (substitute x c.tensor) (substitute x c.view)).run.value = .ok true ∧
      (∀ dim < c.view.length, (c.evaluate (substitute x c.tensor)
        ((substitute x c.view).set dim openAxis)).run.value = .ok true) ∧
      ∀ view, view ≠ substitute x c.view → (c.check (substitute x c.tensor) view).value = false := by
  have closed := h.one_le_view pos
  refine ⟨h.value_evaluate_of_completes pos fits (requested_of_pos closed) (completes_refl _),
    fun dim _ => h.value_evaluate_of_completes pos fits (requested_set_open closed dim) (completes_set_open _ dim),
    fun view other => ?_⟩
  rw [← Bool.not_eq_true, h.value_check_substitute_iff pos fits]
  exact other

end Balanced

/-- Two dynamic axes that stand at other places of the view, the second one left open. -/
theorem evaluate_interleaved :
    let c : ViewConstraint := ⟨[.dynamic, .fixed 6, .dynamic], [.fixed 2, .dynamic, .dynamic, .fixed 3]⟩
    let x : Nat → Int64 := fun k => if k = 0 then 5 else 7
    c.Balanced ∧ (∀ k < c.tensor.count .dynamic, 1 ≤ x k) ∧ Word.Fits (Word.total (substitute x c.tensor)) ∧
      (c.evaluate [5, 6, 7] [2, 5, 7, 3]).run.value = .ok true ∧
      (c.evaluate [5, 6, 7] [2, 5, -1, 3]).run.value = .ok true ∧
      (c.check [5, 6, 7] [2, 7, 5, 3]).value = false := by
  intro c x
  have balanced : c.Balanced := ⟨by decide, by simp [c, fixedSizes], by simp [c, fixedSizes], by decide⟩
  have pos : ∀ k < c.tensor.count .dynamic, 1 ≤ x k := by decide
  have fits : Word.Fits (Word.total (substitute x c.tensor)) := by decide
  obtain ⟨all, open_axis, others⟩ := balanced.generalises pos fits
  exact ⟨balanced, pos, fits, all, open_axis 2 (by decide), others [2, 7, 5, 3] (by decide)⟩

end ViewConstraint

end FusionGuards
