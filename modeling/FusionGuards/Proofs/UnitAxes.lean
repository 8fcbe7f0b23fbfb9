import FusionGuards.Proofs.Reshape
import FusionGuards.Proofs.Squeeze

namespace FusionGuards

namespace ViewConstraint

section Raw

variable {sizes view : List Int64}

theorem map_ofRaw_of_pos (pos : ∀ s ∈ sizes, 1 ≤ s) : sizes.map AxisRule.ofRaw = sizes.map AxisRule.fixed :=
  List.map_congr_left fun s hs => if_neg (View.ne_openAxis_of_pos (pos s hs))

@[simp] theorem count_dynamic_fixed (sizes : List Int64) : (sizes.map AxisRule.fixed).count .dynamic = 0 := by
  simp [List.count_eq_zero]

@[simp] theorem fixedSizes_fixed (sizes : List Int64) : fixedSizes (sizes.map AxisRule.fixed) = sizes := by
  induction sizes with
  | nil => rfl
  | cons size sizes ih => simp [fixedSizes, ih]

@[simp] theorem substitute_fixed (x : Nat → Int64) (sizes : List Int64) :
    substitute x (sizes.map AxisRule.fixed) = sizes := by
  induction sizes with
  | nil => rfl
  | cons size sizes ih => simp [substitute, ih]

theorem substitute_ofRaw (pos : ∀ s ∈ sizes, 1 ≤ s) (x : Nat → Int64) :
    substitute x (sizes.map AxisRule.ofRaw) = sizes := by
  rw [map_ofRaw_of_pos pos, substitute_fixed]

theorem balanced_ofRaw (pos : ∀ s ∈ sizes, 1 ≤ s) (view_pos : ∀ v ∈ view, 1 ≤ v)
    (total_eq : Word.total sizes = Word.total view) : (ofRaw sizes view).Balanced := by
  rw [ofRaw, map_ofRaw_of_pos pos, map_ofRaw_of_pos view_pos]
  exact ⟨by simp, by simpa using pos, by simpa using view_pos, by simpa using total_eq⟩

end Raw

end ViewConstraint

namespace View

open ViewConstraint (ofRaw substitute substitute_ofRaw)

/-- A reshape that resolves to itself, and that the constraint recorded for it accepts, also with any one size left
open. That constraint accepts nothing else. -/
structure Admitted (sizes view : List Int64) : Prop where
  resolved : (infer sizes view).run.value = .ok (some view)
  accepted : ((ofRaw sizes view).evaluate sizes view).run.value = .ok true
  accepted_open : ∀ dim < view.length,
    ((ofRaw sizes view).evaluate sizes (view.set dim openAxis)).run.value = .ok true
  checked_iff : ∀ other, ((ofRaw sizes view).check sizes other).value = true ↔ other = view

section Squeezed

variable {sizes view : List Int64}

theorem mem_squeeze {s : Int64} : s ∈ squeeze sizes ↔ s ∈ sizes ∧ s ≠ 1 := by simp [squeeze]

theorem total_eq_of_squeeze_eq (same : squeeze view = squeeze sizes) : Word.total sizes = Word.total view := by
  rw [← total_squeeze sizes, ← same, total_squeeze]

theorem one_le_of_squeeze_eq (pos : ∀ s ∈ sizes, 1 ≤ s) (same : squeeze view = squeeze sizes) :
    ∀ v ∈ view, 1 ≤ v := by
  intro v hv
  by_cases one : v = 1
  · exact one ▸ Int64.le_refl 1
  · have kept : v ∈ squeeze sizes := same ▸ mem_squeeze.2 ⟨hv, one⟩
    exact pos v (mem_squeeze.1 kept).1

end Squeezed

section Recorded

variable {sizes view : List Int64} (pos : ∀ s ∈ sizes, 1 ≤ s) (fits : Word.Fits (Word.total sizes))

include pos fits

theorem admitted_of_total_eq (view_pos : ∀ v ∈ view, 1 ≤ v) (total_eq : Word.total sizes = Word.total view) :
    Admitted sizes view := by
  have balanced := ViewConstraint.balanced_ofRaw pos view_pos total_eq
  -- No axis is dynamic, so that any sizes do for those.
  have tensor := substitute_ofRaw pos fun _ => 1
  have family := substitute_ofRaw view_pos fun _ => 1
  have dynamic_pos : ∀ k < (ofRaw sizes view).tensor.count .dynamic, (1 : Int64) ≤ 1 :=
    fun _ _ => Int64.le_refl 1
  have family_fits : Word.Fits (Word.total (substitute (fun _ => 1) (sizes.map AxisRule.ofRaw))) := tensor.symm ▸ fits
  have evaluate {requested : List Int64} (requests : Requested requested) (completes : Completes requested view) :
      ((ofRaw sizes view).evaluate sizes requested).run.value = .ok true := by
    rw [← family] at completes
    have taken := balanced.value_evaluate_of_completes dynamic_pos family_fits requests completes
    rwa [ofRaw, tensor] at taken
  refine ⟨?resolved, evaluate (requested_of_pos view_pos) (completes_refl view),
    fun dim _ => evaluate (requested_set_open view_pos dim) (completes_set_open view dim), fun other => ?checked⟩
  case resolved =>
    exact value_infer_of_pos view_pos (total_eq ▸ fits) ((Word.prefixesFit_iff_of_pos pos).2 fits) (total_eq ▸ dvd_rfl)
  case checked =>
    have checked : _ ↔ other = _ := balanced.value_check_substitute_iff dynamic_pos family_fits
    rwa [ofRaw, tensor, family] at checked

theorem admitted_of_squeeze_eq (same : squeeze view = squeeze sizes) : Admitted sizes view :=
  admitted_of_total_eq pos fits (one_le_of_squeeze_eq pos same) (total_eq_of_squeeze_eq same)

theorem exists_admitted {reshaped : Except Fault (List Int64)} (same : reshaped.map squeeze = .ok (squeeze sizes)) :
    ∃ view, reshaped = .ok view ∧ Admitted sizes view := by
  cases reshaped with
  | error fault => cases same
  | ok view => exact ⟨view, rfl, admitted_of_squeeze_eq pos fits (Except.ok.inj same)⟩

theorem admitted_squeezed :
    Admitted sizes (squeeze sizes) ∧
    (∀ dim : Int64, -(sizes.length : Int) ≤ dim.toInt → dim.toInt < sizes.length →
      ∃ view, squeezeAt sizes dim = .ok view ∧ Admitted sizes view) ∧
    ∀ dim : Int64, -(sizes.length + 1 : Int) ≤ dim.toInt → dim.toInt ≤ sizes.length →
      ∃ view, unsqueeze sizes dim = .ok view ∧ Admitted sizes view := by
  refine ⟨?all, fun dim lower upper => ?one, fun dim lower upper => ?new⟩
  case all => exact admitted_of_squeeze_eq pos fits (squeeze_squeeze sizes)
  case one =>
    obtain ⟨i, h⟩ := inRange_iff_exists_addresses.1 (⟨lower, upper⟩ : InRange dim sizes.length)
    exact exists_admitted pos fits (squeeze_squeezeAt h)
  case new =>
    obtain ⟨i, h⟩ := inRange_iff_exists_addresses.1 (⟨by omega, by omega⟩ : InRange dim (sizes.length + 1))
    exact exists_admitted pos fits (squeeze_unsqueeze h)

end Recorded

theorem admitted_squeezed_largest :
    (∀ s ∈ [1, 9223372036854775807], (1 : Int64) ≤ s) ∧ Word.Fits (Word.total [1, 9223372036854775807]) ∧
      squeezeAt [1, 9223372036854775807] (-2) = .ok [9223372036854775807] ∧
      Admitted [1, 9223372036854775807] [9223372036854775807] ∧
      unsqueeze [1, 9223372036854775807] (-1) = .ok [1, 9223372036854775807, 1] ∧
      Admitted [1, 9223372036854775807] [1, 9223372036854775807, 1] := by
  have pos : ∀ s ∈ [1, 9223372036854775807], (1 : Int64) ≤ s := by simp
  have fits : Word.Fits (Word.total [1, 9223372036854775807]) := by decide
  obtain ⟨-, squeezed, unsqueezed⟩ := admitted_squeezed pos fits
  have shorter : squeezeAt [1, 9223372036854775807] (-2) = .ok [9223372036854775807] := by rfl
  have longer : unsqueeze [1, 9223372036854775807] (-1) = .ok [1, 9223372036854775807, 1] := by rfl
  obtain ⟨view, is_view, admitted⟩ := squeezed (-2) (by decide) (by decide)
  obtain ⟨other, is_other, admitted'⟩ := unsqueezed (-1) (by decide) (by decide)
  obtain rfl := Except.ok.inj (is_view.symm.trans shorter)
  obtain rfl := Except.ok.inj (is_other.symm.trans longer)
  exact ⟨pos, fits, shorter, admitted, longer, admitted'⟩

end View

end FusionGuards
