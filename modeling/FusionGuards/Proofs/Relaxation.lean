import FusionGuards.Proofs.Compliance
import Mathlib.Data.List.Forall2

namespace FusionGuards

def Weakens (relaxed recorded : Option α) : Prop := relaxed = none ∨ relaxed = recorded

theorem Weakens.mem {relaxed recorded : Option α} (h : Weakens relaxed recorded) {a : α} (mem : a ∈ relaxed) :
    a ∈ recorded := by
  obtain rfl | rfl := h
  · cases mem
  · exact mem

/-- A slot of the same dimension, contiguous only if the other one is. -/
structure StrideSlot.Relaxes (relaxed slot : StrideSlot) : Prop where
  index : relaxed.index = slot.index
  contiguous : relaxed.contiguous = true → slot.contiguous = true

namespace StrideSlot.Relaxes

variable {relaxed slot : StrideSlot} {t : Tensor}

theorem axis? (h : relaxed.Relaxes slot) (t : Tensor) : relaxed.axis? t = slot.axis? t := by
  rw [StrideSlot.axis?, StrideSlot.axis?, h.index]

theorem met {reference : Option Axis} (h : relaxed.Relaxes slot) (met : slot.Met t reference) :
    relaxed.Met t reference := by
  intro dim mem
  rw [h.index] at mem
  obtain ⟨a, ha, follows, collapses⟩ := met dim mem
  exact ⟨a, ha, follows, fun contiguous => collapses (h.contiguous contiguous)⟩

theorem needsNeighbour (h : relaxed.Relaxes slot) (needs : relaxed.NeedsNeighbour t) : slot.NeedsNeighbour t := by
  obtain ⟨contiguous, a, ha, wide⟩ := needs
  exact ⟨h.contiguous contiguous, a, h.axis? t ▸ ha, wide⟩

theorem filterMap_axis? {relaxed slots : List StrideSlot} (h : List.Forall₂ Relaxes relaxed slots) (t : Tensor) :
    relaxed.filterMap (·.axis? t) = slots.filterMap (·.axis? t) := by
  induction h with
  | nil => rfl
  | cons head _ ih => rw [List.filterMap_cons, List.filterMap_cons, head.axis?, ih]

end StrideSlot.Relaxes

namespace Signature

structure Relaxes (relaxed s : Signature) : Prop where
  rank : relaxed.rank = s.rank
  elementType : Weakens relaxed.elementType s.elementType
  device : Weakens relaxed.device s.device
  requiresGrad : Weakens relaxed.requiresGrad s.requiresGrad
  sizes : List.Forall₂ Weakens relaxed.sizes s.sizes
  slots : List.Forall₂ StrideSlot.Relaxes relaxed.slots s.slots

theorem exists_counterpart {R : α → β → Prop} {xs : List α} {ys : List β} (h : List.Forall₂ R xs ys) {p : Nat}
    {x : α} (mem : x ∈ xs[p]?) : ∃ y ∈ ys[p]?, R x y := by
  obtain ⟨inside, rfl⟩ := List.getElem?_eq_some_iff.1 mem
  have other : p < ys.length := h.length_eq ▸ inside
  exact ⟨_, List.getElem?_eq_getElem other, h.get inside other⟩

namespace Relaxes

variable {relaxed s : Signature} {t : Tensor} {gradMode : Bool}

theorem reference?_eq (h : relaxed.Relaxes s) (t : Tensor) (p : Nat) : relaxed.reference? t p = s.reference? t p := by
  rw [reference?, reference?, StrideSlot.Relaxes.filterMap_axis? (List.forall₂_take p h.slots)]

theorem fits (h : relaxed.Relaxes s) (fits : s.Fits t gradMode) : relaxed.Fits t gradMode where
  rank := h.rank.trans fits.rank
  elementType e mem := fits.elementType e (h.elementType.mem mem)
  device d mem := fits.device d (h.device.mem mem)
  requiresGrad b mem := fits.requiresGrad b (h.requiresGrad.mem mem)
  slots p hp slot mem := by
    obtain ⟨recorded, there, relaxes⟩ := exists_counterpart h.slots mem
    rw [h.reference?_eq]
    exact relaxes.met (fits.slots p hp recorded there)
  sizes p hp size mem actual there := by
    obtain ⟨recorded, present, weakens⟩ := exists_counterpart h.sizes mem
    exact fun r hr => fits.sizes p hp recorded present actual there r (weakens.mem hr)

theorem consistent (h : relaxed.Relaxes s) (consistent : s.Consistent t) : relaxed.Consistent t where
  sizes_length := h.sizes.length_eq ▸ consistent.sizes_length
  slots_length := h.slots.length_eq ▸ consistent.slots_length
  neighbour p hp slot mem needs := by
    obtain ⟨recorded, there, relaxes⟩ := exists_counterpart h.slots mem
    obtain ⟨inner, before, known⟩ := consistent.neighbour p hp recorded there (relaxes.needsNeighbour needs)
    have turned : List.Forall₂ (flip StrideSlot.Relaxes) s.slots relaxed.slots := h.slots.flip
    obtain ⟨left, present, same⟩ := exists_counterpart turned before
    exact ⟨left, present, same.index ▸ known⟩

theorem accepts (h : relaxed.Relaxes s) (t : Tensor) (gradMode : Bool)
    (accepted : (s.complies t gradMode).run.value = .ok true) :
    (relaxed.complies t gradMode).run.value = .ok true := by
  rw [value_complies_eq_true_iff] at accepted ⊢
  exact ⟨h.fits accepted.1, h.consistent accepted.2⟩

theorem accepts_between_slots :
    let s : Signature :=
      { rank := some 3, elementType := some .float, sizes := [some 4, none, some 1],
        slots := [⟨none, false⟩, ⟨some 0, true⟩, ⟨some 1, true⟩] }
    let relaxed : Signature :=
      { rank := some 3, sizes := [none, none, some 1], slots := [⟨none, false⟩, ⟨some 0, false⟩, ⟨some 1, true⟩] }
    let t : Tensor := ⟨[4, 3, 1], [1, 4, 5], .float, .cpu, false, rfl, by simp⟩
    relaxed.Relaxes s ∧ (s.complies t true).run.value = .ok true ∧ (relaxed.complies t true).run.value = .ok true := by
  intro s relaxed t
  have relaxes : relaxed.Relaxes s := by
    refine ⟨rfl, .inl rfl, .inr rfl, .inr rfl, ?_, ?_⟩
    · exact .cons (.inl rfl) (.cons (.inr rfl) (.cons (.inr rfl) .nil))
    · exact .cons ⟨rfl, nofun⟩ (.cons ⟨rfl, nofun⟩ (.cons ⟨rfl, fun _ => rfl⟩ .nil))
  have accepted : (s.complies t true).run.value = .ok true := by decide
  exact ⟨relaxes, accepted, relaxes.accepts t true accepted⟩

end Relaxes

end Signature

end FusionGuards
