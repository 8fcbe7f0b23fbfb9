import FusionGuards.Proofs.Inference
import Mathlib.Data.List.Induction

namespace FusionGuards.View

def Malformed (view : List Int64) : Prop := 2 ≤ view.count openAxis ∨ ∃ v ∈ view, v ≠ openAxis ∧ v ≤ 0

inductive OutOfPlace (before : List Int64) : Int64 → Cause → Prop
  | again : openAxis ∈ before → OutOfPlace before openAxis .severalInferred
  | nonPositive {size : Int64} : size ≠ openAxis → size ≤ 0 →
    OutOfPlace before size (.nonPositive before.length size)

structure Breaks (view before : List Int64) (cause : Cause) : Prop where
  requested : Requested before
  outOfPlace : ∃ size after, view = before ++ size :: after ∧ OutOfPlace before size cause

theorem requested_of_not_malformed {view : List Int64} (well : ¬Malformed view) : Requested view := by
  simp only [Malformed, not_or, not_exists, not_and] at well
  refine ⟨by omega, fun v mem => or_iff_not_imp_left.2 fun closed => ?_⟩
  exact Word.not_le_zero_iff.1 (well.2 v mem closed)

theorem Malformed.not_requested {view : List Int64} (h : Malformed view) : ¬Requested view := by
  rintro ⟨count_le, pos⟩
  obtain twice | ⟨v, mem, closed, small⟩ := h
  · omega
  · exact Word.not_le_zero_iff.2 ((pos v mem).resolve_left closed) small

theorem Requested.concat {view : List Int64} {size : Int64} (h : Requested view)
    (once : size = openAxis → openAxis ∉ view) (pos : size = openAxis ∨ 1 ≤ size) :
    Requested (view ++ [size]) where
  count_le := by
    rw [List.count_append, List.count_singleton]
    split
    case isTrue same =>
      rw [List.count_eq_zero_of_not_mem (once (by simpa using same))]
    case isFalse => exact h.count_le
  pos v hv := by
    obtain hv | hv := List.mem_append.1 hv
    · exact h.pos v hv
    · rwa [List.mem_singleton.1 hv]

theorem Requested.concat_or_outOfPlace {view : List Int64} (h : Requested view) (size : Int64) :
    Requested (view ++ [size]) ∨ ∃ cause, OutOfPlace view size cause := by
  by_cases left_open : size = openAxis
  · by_cases mem : openAxis ∈ view
    · subst left_open
      exact .inr ⟨_, .again mem⟩
    · exact .inl (h.concat (fun _ => mem) (.inl left_open))
  · by_cases small : size ≤ 0
    · exact .inr ⟨_, .nonPositive left_open small⟩
    · exact .inl (h.concat (fun same => absurd same left_open) (.inr (Word.not_le_zero_iff.1 small)))

theorem exists_breaks {view : List Int64} (unfit : ¬Requested view) :
    ∃ before cause, Breaks view before cause := by
  induction view using List.reverseRecOn with
  | nil => exact absurd ⟨by simp, by simp⟩ unfit
  | append_singleton view size ih =>
    by_cases well : Requested view
    · obtain ⟨cause, bad⟩ := (well.concat_or_outOfPlace size).resolve_left unfit
      exact ⟨view, cause, well, size, [], rfl, bad⟩
    · obtain ⟨before, cause, requested, first, after, rfl, bad⟩ := ih well
      exact ⟨before, cause, requested, first, after ++ [size], by simp, bad⟩

theorem OutOfPlace.scan_eq {before after : List Int64} {size : Int64} {cause : Cause}
    (bad : OutOfPlace before size cause) (elements : Int64) :
    scan before.length ⟨before.idxOf? openAxis, elements⟩ (size :: after) = .error ⟨.view, cause⟩ := by
  cases bad with
  | again mem => simp [scan, mem]
  | nonPositive closed small => simp [scan, closed, small]

theorem Breaks.malformed {view before : List Int64} {cause : Cause} (h : Breaks view before cause) :
    Malformed view := by
  obtain ⟨-, size, after, rfl, bad⟩ := h
  cases bad with
  | again mem =>
    left
    have one := List.count_pos_iff.2 mem
    rw [List.count_append, List.count_cons_self]
    omega
  | nonPositive closed small => exact .inr ⟨size, by simp, closed, small⟩

theorem malformed_iff_exists_breaks {view : List Int64} :
    Malformed view ↔ ∃ before cause, Breaks view before cause :=
  ⟨fun h => exists_breaks h.not_requested, fun ⟨_, _, h⟩ => h.malformed⟩

theorem Breaks.value_infer {view before : List Int64} {cause : Cause} (h : Breaks view before cause)
    (sizes : List Int64) :
    (infer sizes view).run.value =
      if Word.Fits (Word.total (explicit before)) then .error ⟨.view, cause⟩ else .ok none := by
  obtain ⟨requested, size, after, rfl, bad⟩ := h
  have scanned := scan_of_requested_append requested (size :: after)
  have prefixes := Word.prefixesFit_iff_of_pos requested.one_le_explicit
  split
  case isTrue fits =>
    obtain ⟨elements, product, _⟩ := (prefixes.2 fits).exists_product?
    rw [product] at scanned
    exact value_infer_of_error (scanned.trans (bad.scan_eq elements)) sizes
  case isFalse wide =>
    rw [Word.product?_eq_none_iff.2 (prefixes.not.2 wide)] at scanned
    exact value_infer_of_none scanned (.inl rfl)

def Feasible (sizes view : List Int64) : Prop :=
  Word.Fits (Word.total (explicit view)) ∧ Word.PrefixesFit sizes ∧ Word.total (explicit view) ∣ Word.total sizes

theorem Requested.exists_value_infer {view : List Int64} (h : Requested view) (sizes : List Int64) :
    ∃ resolved, (infer sizes view).run.value = .ok resolved ∧ (resolved = none ↔ ¬Feasible sizes view) := by
  by_cases fit : Word.Fits (Word.total (explicit view)) ∧ Word.PrefixesFit sizes
  · obtain ⟨divisor, hd, _⟩ := ((Word.prefixesFit_iff_of_pos h.one_le_explicit).2 fit.1).exists_product?
    obtain ⟨elements, he, _⟩ := fit.2.exists_product?
    exact ⟨_, h.value_infer hd he, by simp [Feasible, fit]⟩
  · exact ⟨none, h.value_infer_of_unfit fit, by simpa [Feasible] using fun fits prefixes => absurd ⟨fits, prefixes⟩ fit⟩

theorem value_infer_eq_error_iff {sizes view : List Int64} {f : Fault} :
    (infer sizes view).run.value = .error f ↔
      ∃ before cause, Breaks view before cause ∧ Word.Fits (Word.total (explicit before)) ∧ f = ⟨.view, cause⟩ := by
  constructor
  · intro reported
    have malformed : Malformed view := by
      by_contra well
      obtain ⟨resolved, value, _⟩ := (requested_of_not_malformed well).exists_value_infer sizes
      rw [value] at reported
      cases reported
    obtain ⟨before, cause, breaks⟩ := malformed_iff_exists_breaks.1 malformed
    rw [breaks.value_infer] at reported
    split at reported
    case isTrue fits => exact ⟨before, cause, breaks, fits, (Except.error.inj reported).symm⟩
    case isFalse => cases reported
  · rintro ⟨before, cause, breaks, fits, rfl⟩
    rw [breaks.value_infer, if_pos fits]

theorem value_infer_eq_none_iff {sizes view : List Int64} :
    (infer sizes view).run.value = .ok none ↔
      (∃ before cause, Breaks view before cause ∧ ¬Word.Fits (Word.total (explicit before))) ∨
        ¬Malformed view ∧ ¬Feasible sizes view := by
  constructor
  · intro unanswered
    by_cases malformed : Malformed view
    · obtain ⟨before, cause, breaks⟩ := malformed_iff_exists_breaks.1 malformed
      rw [breaks.value_infer] at unanswered
      split at unanswered
      case isTrue => cases unanswered
      case isFalse wide => exact .inl ⟨before, cause, breaks, wide⟩
    · obtain ⟨resolved, value, none_iff⟩ := (requested_of_not_malformed malformed).exists_value_infer sizes
      rw [value] at unanswered
      exact .inr ⟨malformed, none_iff.1 (Except.ok.inj unanswered)⟩
  · rintro (⟨before, cause, breaks, wide⟩ | ⟨well, infeasible⟩)
    · rw [breaks.value_infer, if_neg wide]
    · obtain ⟨resolved, value, none_iff⟩ := (requested_of_not_malformed well).exists_value_infer sizes
      rw [value, none_iff.2 infeasible]

/-- What is reported, and what passes for infeasible: a malformed view is reported with the cause if the sizes before
the first that is out of place multiply to a word, and else it is answered like a well-formed one that has no answer. -/
theorem infer_reports_iff (sizes view : List Int64) :
    (Malformed view ↔ ∃ before cause, Breaks view before cause) ∧
    (∀ f, (infer sizes view).run.value = .error f ↔
      ∃ before cause, Breaks view before cause ∧ Word.Fits (Word.total (explicit before)) ∧ f = ⟨.view, cause⟩) ∧
    ((infer sizes view).run.value = .ok none ↔
      (∃ before cause, Breaks view before cause ∧ ¬Word.Fits (Word.total (explicit before))) ∨
        ¬Malformed view ∧ ¬Feasible sizes view) :=
  ⟨malformed_iff_exists_breaks, fun _ => value_infer_eq_error_iff, value_infer_eq_none_iff⟩

theorem infer_unreported_zero :
    Malformed [9223372036854775807, 2, 0] ∧ (infer [6] [9223372036854775807, 2, 0]).run.value = .ok none :=
  ⟨.inr ⟨0, by decide, by decide, by decide⟩, by rfl⟩

end FusionGuards.View
