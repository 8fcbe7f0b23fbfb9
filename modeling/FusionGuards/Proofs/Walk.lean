import FusionGuards.Tensor.Walk
import Mathlib.Data.List.Induction

namespace FusionGuards

def Axis.Follows (a : Axis) (reference : Option Axis) : Prop :=
  ∀ e ∈ reference, a.stride = 0 ∨ e.stride ≤ a.stride

/-- An axis of one element, of unit stride, or whose stride spans the reference exactly. -/
def Axis.CollapsesWith (a : Axis) (reference : Option Axis) : Prop :=
  a.size = 1 ∨ a.stride = 1 ∨ ∃ e ∈ reference, e.stride.toInt * e.size.toInt = a.stride.toInt

namespace Walk

def after (axes : List Axis) : Walk := axes.foldl advance {}

/-- The last axis of nonzero stride and size other than one, and if there is none the first of nonzero stride. -/
def referenceOf (axes : List Axis) : Option Axis :=
  (axes.findRev? fun a => a.stride != 0 && a.size != 1).or (axes.find? (·.stride != 0))

@[simp] theorem after_nil : after [] = {} := rfl

@[simp] theorem after_concat (axes : List Axis) (a : Axis) :
    after (axes ++ [a]) = (after axes).advance a := by
  simp [after]

@[simp] theorem referenceOf_nil : referenceOf [] = none := rfl

theorem referenceOf_concat (axes : List Axis) (a : Axis) :
    referenceOf (axes ++ [a]) =
      if a.stride ≠ 0 ∧ (referenceOf axes = none ∨ a.size ≠ 1) then some a else referenceOf axes := by
  by_cases ht : a.stride = 0
  · simp [referenceOf, ht]
  by_cases hs : a.size = 1
  · -- An axis of size one is only found from the front, behind all the others.
    have later : referenceOf (axes ++ [a]) = (referenceOf axes).or (some a) := by
      simp [referenceOf, ht, hs]
    rw [later]
    cases referenceOf axes <;> simp [ht, hs]
  · simp [referenceOf, ht, hs]

theorem mem_of_mem_referenceOf {axes : List Axis} {e : Axis} (h : e ∈ referenceOf axes) :
    e ∈ axes ∧ e.stride ≠ 0 := by
  rw [Option.mem_def, referenceOf, List.findRev?_eq_find?_reverse, Option.or_eq_some_iff] at h
  obtain h | ⟨_, h⟩ := h
  · have he := List.find?_some h
    have hm := List.mem_of_find?_eq_some h
    simp_all
  · have he := List.find?_some h
    have hm := List.mem_of_find?_eq_some h
    simp_all

@[simp] theorem reference_after (axes : List Axis) : (after axes).reference = referenceOf axes := by
  induction axes using List.reverseRecOn with
  | nil => rfl
  | append_singleton axes a ih =>
    rw [after_concat, referenceOf_concat, advance, ih]
    split <;> simp [ih]

theorem orderHolds_after {axes : List Axis} {a : Axis} :
    (after axes).orderHolds a = true ↔ a.Follows (referenceOf axes) := by
  unfold orderHolds Axis.Follows
  rw [reference_after]
  cases h : referenceOf axes with
  | none => simp
  | some e =>
    have he : e.stride ≠ 0 := (mem_of_mem_referenceOf h).2
    simp [he]

theorem contiguousAt_after {axes : List Axis} {a : Axis} {position : Nat}
    (h : position = 0 → axes = []) :
    (after axes).contiguousAt position a = true ↔ a.CollapsesWith (referenceOf axes) := by
  unfold contiguousAt Axis.CollapsesWith
  rw [reference_after]
  by_cases h1 : a.size = 1
  · simp [h1]
  by_cases h2 : a.stride = 1
  · simp [h2]
  by_cases h3 : position = 0
  · simp [h1, h2, h3, h h3]
  cases referenceOf axes with
  | none => simp [h1, h2, h3]
  | some e =>
    have product : Word.mul? e.stride e.size = some a.stride ↔
        e.stride.toInt * e.size.toInt = a.stride.toInt := Word.mul?_eq_some_iff.trans eq_comm
    simp [h1, h2, h3, product]

end Walk

end FusionGuards
