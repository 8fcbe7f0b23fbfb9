import FusionGuards.Tensor.Basic

namespace FusionGuards

theorem firstNegative?_append {before after : List Int64} {size : Int64} (nonneg : ∀ s ∈ before, 0 ≤ s)
    (negative : size < 0) (dim : Nat) :
    firstNegative? dim (before ++ size :: after) = some (dim + before.length, size) := by
  induction before generalizing dim with
  | nil => exact if_pos negative
  | cons s before ih =>
    obtain ⟨head, tail⟩ := List.forall_mem_cons.1 nonneg
    rw [List.cons_append, firstNegative?, if_neg (Int64.not_lt.2 head), ih tail, List.length_cons, Nat.add_right_comm,
      Nat.add_assoc]

theorem exists_first_negative {sizes : List Int64} (h : ¬∀ s ∈ sizes, 0 ≤ s) :
    ∃ before size after, sizes = before ++ size :: after ∧ (∀ s ∈ before, 0 ≤ s) ∧ size < 0 := by
  have found : (sizes.find? (· < 0)).isSome := by simpa [Int64.not_le] using h
  obtain ⟨size, first⟩ := Option.isSome_iff_exists.1 found
  obtain ⟨negative, before, after, split, nonneg⟩ := List.find?_eq_some_iff_append.1 first
  exact ⟨before, size, after, split, by simpa [Int64.not_lt] using nonneg, by simpa using negative⟩

namespace Tensor

variable {sizes strides : List Int64} {elementType : ElementType} {device : Device}

theorem ofStrides_of_length_ne (h : strides.length ≠ sizes.length) :
    ofStrides sizes strides elementType device = .error (.lengths sizes.length strides.length) := dif_neg h

theorem ofStrides_of_firstNegative? {dim : Nat} {size : Int64} (hl : strides.length = sizes.length)
    (found : firstNegative? 0 sizes = some (dim, size)) :
    ofStrides sizes strides elementType device = .error (.negativeSize dim size) := by
  rw [ofStrides, dif_pos hl]
  split
  case h_1 dim' size' found' =>
    obtain ⟨rfl, rfl⟩ := Prod.mk.inj (Option.some.inj (found.symm.trans found'))
    rfl
  case h_2 none => cases found.symm.trans none

theorem map_ofStrides (sizes strides : List Int64) (elementType : ElementType) (device : Device) :
    (ofStrides sizes strides elementType device).map (·.withRequiresGrad false) =
      ofStrides sizes strides elementType device := by
  rw [ofStrides]
  split
  · split <;> rfl
  · rfl

@[simp] theorem toTensor_toParts (t : Tensor) : t.toParts.toTensor = .ok t := by
  rw [TensorParts.toTensor, toParts, Option.getD_some, ofStrides_eq_ok t.strides_length t.sizes_nonneg]
  rfl

end Tensor

namespace TensorParts

def layout (p : TensorParts) : List Int64 := p.strides.getD (rowMajorStrides p.sizes)

def complete (p : TensorParts) : TensorParts := { p with strides := some p.layout }

structure Sound (p : TensorParts) : Prop where
  strides_length : ∀ strides ∈ p.strides, strides.length = p.sizes.length
  sizes_nonneg : ∀ s ∈ p.sizes, 0 ≤ s

/-- What is wrong with parts. Sizes are looked at only where there are as many strides. -/
inductive Defect (p : TensorParts) : LayoutError → Prop
  | lengths {strides : List Int64} (given : strides ∈ p.strides) (differ : strides.length ≠ p.sizes.length) :
    Defect p (.lengths p.sizes.length strides.length)
  | negativeSize {before after : List Int64} {size : Int64}
    (strides_length : ∀ strides ∈ p.strides, strides.length = p.sizes.length)
    (split : p.sizes = before ++ size :: after) (nonneg : ∀ s ∈ before, 0 ≤ s) (negative : size < 0) :
    Defect p (.negativeSize before.length size)

variable {p : TensorParts}

theorem toTensor_eq (p : TensorParts) : p.toTensor =
    (Tensor.ofStrides p.sizes p.layout p.elementType p.device).map (·.withRequiresGrad p.requiresGrad) :=
  rfl

theorem length_layout_iff :
    p.layout.length = p.sizes.length ↔ ∀ strides ∈ p.strides, strides.length = p.sizes.length := by
  rw [layout]
  cases p.strides <;> simp

theorem Sound.complete (h : p.Sound) : p.complete.Sound where
  strides_length := by
    rintro _ ⟨rfl⟩
    exact length_layout_iff.2 h.strides_length
  sizes_nonneg := h.sizes_nonneg

theorem sound_or_defect (p : TensorParts) : p.Sound ∨ ∃ e, p.Defect e := by
  by_cases strides_length : ∀ strides ∈ p.strides, strides.length = p.sizes.length
  · by_cases sizes_nonneg : ∀ s ∈ p.sizes, 0 ≤ s
    · exact .inl ⟨strides_length, sizes_nonneg⟩
    · obtain ⟨before, size, after, split, nonneg, negative⟩ := exists_first_negative sizes_nonneg
      exact .inr ⟨_, .negativeSize strides_length split nonneg negative⟩
  · obtain ⟨strides, differ⟩ := Classical.not_forall.1 strides_length
    obtain ⟨given, differ⟩ := Classical.not_imp.1 differ
    exact .inr ⟨_, .lengths given differ⟩

theorem Sound.exists_toTensor (h : p.Sound) : ∃ t, p.toTensor = .ok t ∧ t.toParts = p.complete := by
  have made := Tensor.ofStrides_eq_ok (length_layout_iff.2 h.strides_length) h.sizes_nonneg p.elementType p.device
  exact ⟨_, congrArg (·.map (·.withRequiresGrad p.requiresGrad)) made, rfl⟩

theorem Defect.toTensor_eq {e : LayoutError} (h : p.Defect e) : p.toTensor = .error e := by
  rw [TensorParts.toTensor_eq]
  cases h with
  | lengths given differ =>
    rw [layout, given, Option.getD_some, Tensor.ofStrides_of_length_ne differ]
    rfl
  | @negativeSize before after size strides_length split nonneg negative =>
    have found : firstNegative? 0 p.sizes = some (before.length, size) := by
      rw [split, firstNegative?_append nonneg negative, Nat.zero_add]
    rw [Tensor.ofStrides_of_firstNegative? (length_layout_iff.2 strides_length) found]
    rfl

theorem toTensor_eq_error_iff {e : LayoutError} : p.toTensor = .error e ↔ p.Defect e := by
  refine ⟨fun failed => ?_, Defect.toTensor_eq⟩
  obtain sound | ⟨e', defect⟩ := p.sound_or_defect
  · obtain ⟨t, made, -⟩ := sound.exists_toTensor
    cases failed.symm.trans made
  · obtain rfl := Except.error.inj (failed.symm.trans defect.toTensor_eq)
    exact defect

theorem toTensor_eq_ok {t : Tensor} (made : p.toTensor = .ok t) : p.Sound ∧ t.toParts = p.complete := by
  obtain sound | ⟨e, defect⟩ := p.sound_or_defect
  · obtain ⟨t', made', parts⟩ := sound.exists_toTensor
    obtain rfl := Except.ok.inj (made.symm.trans made')
    exact ⟨sound, parts⟩
  · cases made.symm.trans defect.toTensor_eq

def normalize (p : TensorParts) : Except LayoutError TensorParts := p.toTensor.map Tensor.toParts

theorem normalize_normalize (p : TensorParts) : p.normalize >>= normalize = p.normalize := by
  rw [normalize]
  cases p.toTensor with
  | error e => rfl
  | ok t => exact congrArg (·.map Tensor.toParts) t.toTensor_toParts

end TensorParts

inductive Construction
  | rowMajor (sizes : List Int64) (elementType : ElementType) (device : Device)
  | ofStrides (sizes strides : List Int64) (elementType : ElementType) (device : Device)
  | ofParts (p : TensorParts)
  | withRequiresGrad (c : Construction) (flag : Bool)

namespace Construction

def make : Construction → Except LayoutError Tensor
  | rowMajor sizes elementType device => Tensor.rowMajor sizes elementType device
  | ofStrides sizes strides elementType device => Tensor.ofStrides sizes strides elementType device
  | ofParts p => p.toTensor
  | withRequiresGrad c flag => c.make.map (·.withRequiresGrad flag)

def parts : Construction → TensorParts
  | rowMajor sizes elementType device => ⟨sizes, none, elementType, device, false⟩
  | ofStrides sizes strides elementType device => ⟨sizes, some strides, elementType, device, false⟩
  | ofParts p => p
  | withRequiresGrad c flag => { c.parts with requiresGrad := flag }

theorem make_eq (c : Construction) : c.make = c.parts.toTensor := by
  induction c with
  | rowMajor sizes elementType device => exact (Tensor.map_ofStrides sizes _ elementType device).symm
  | ofStrides sizes strides elementType device => exact (Tensor.map_ofStrides sizes strides elementType device).symm
  | ofParts p => rfl
  | withRequiresGrad c flag ih =>
    rw [make, ih, TensorParts.toTensor_eq]
    change _ = (Tensor.ofStrides c.parts.sizes c.parts.layout c.parts.elementType c.parts.device).map
      (·.withRequiresGrad flag)
    cases Tensor.ofStrides c.parts.sizes c.parts.layout c.parts.elementType c.parts.device <;> rfl

theorem sound_of_make {c : Construction} {t : Tensor} (made : c.make = .ok t) :
    t.toParts = c.parts.complete ∧ t.toParts.Sound := by
  rw [make_eq] at made
  obtain ⟨sound, parts⟩ := TensorParts.toTensor_eq_ok made
  exact ⟨parts, parts ▸ sound.complete⟩

end Construction

/-- Whichever way a tensor is made, it holds sound parts with the strides filled in. -/
theorem TensorParts.toTensor_invariant (p : TensorParts) :
    ((∃ t, p.toTensor = .ok t) ↔ p.Sound) ∧
    (∀ e, p.toTensor = .error e ↔ p.Defect e) ∧
    (∀ c : Construction, c.make = c.parts.toTensor ∧ ∀ t, c.make = .ok t →
      t.toParts = c.parts.complete ∧ t.strides.length = t.sizes.length ∧ ∀ s ∈ t.sizes, 0 ≤ s) ∧
    toTensor { p with strides := none } = toTensor { p with strides := some (rowMajorStrides p.sizes) } ∧
    (∀ t : Tensor, t.toParts.toTensor = .ok t) ∧
    p.normalize >>= normalize = p.normalize := by
  refine ⟨⟨?_, ?_⟩, fun e => toTensor_eq_error_iff, fun c => ⟨c.make_eq, fun t made => ?_⟩, rfl,
    Tensor.toTensor_toParts, p.normalize_normalize⟩
  · rintro ⟨t, made⟩
    exact (toTensor_eq_ok made).1
  · intro sound
    obtain ⟨t, made, -⟩ := sound.exists_toTensor
    exact ⟨t, made⟩
  · obtain ⟨parts, sound⟩ := Construction.sound_of_make made
    exact ⟨parts, sound.strides_length _ rfl, sound.sizes_nonneg⟩

theorem TensorParts.toTensor_invariant_defects :
    toTensor ⟨[2, -1, -3], some [3, 1], .float, .cpu, true⟩ = .error (.lengths 3 2) ∧
      toTensor ⟨[2, -1, -3], none, .float, .cpu, true⟩ = .error (.negativeSize 1 (-1)) ∧
      ∃ t, Construction.make (.withRequiresGrad (.rowMajor [2, 0, 3] .float .cpu) true) = .ok t ∧
        t.toParts = ⟨[2, 0, 3], some [3, 3, 1], .float, .cpu, true⟩ := by
  obtain ⟨-, short, -⟩ := toTensor_invariant ⟨[2, -1, -3], some [3, 1], .float, .cpu, true⟩
  obtain ⟨-, negative, -⟩ := toTensor_invariant ⟨[2, -1, -3], none, .float, .cpu, true⟩
  obtain ⟨accepted, -, made, -⟩ := toTensor_invariant ⟨[2, 0, 3], none, .float, .cpu, true⟩
  obtain ⟨t, is_made⟩ := accepted.2 ⟨by simp, by simp⟩
  obtain ⟨conversion, parts⟩ := made (.withRequiresGrad (.rowMajor [2, 0, 3] .float .cpu) true)
  have built := conversion.trans is_made
  exact ⟨(short _).2 (@Defect.lengths _ [3, 1] rfl (by decide)),
    (negative _).2 (@Defect.negativeSize _ [2] [-3] (-1) (by simp) rfl (by simp) (by decide)),
    t, built, (parts t built).1⟩

end FusionGuards
