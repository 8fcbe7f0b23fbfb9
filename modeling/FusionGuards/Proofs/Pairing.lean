import FusionGuards.Proofs.Product
import FusionGuards.View.Check

namespace FusionGuards.ViewConstraint

def IsDynamic (rules : List AxisRule) (k dim : Nat) : Prop :=
  rules[dim]? = some AxisRule.dynamic ∧ (rules.take dim).count .dynamic = k

def FixedMet (rules : List AxisRule) (sizes : List Int64) : Prop :=
  ∀ (dim : Nat) (size : Int64), rules[dim]? = some (AxisRule.fixed size) → sizes[dim]? = some size

structure Accepts (c : ViewConstraint) (sizes view : List Int64) : Prop where
  tensor_length : c.tensor.length = sizes.length
  view_length : c.view.length = view.length
  tensor_fixed : FixedMet c.tensor sizes
  view_fixed : FixedMet c.view view
  count_le : c.view.count .dynamic ≤ c.tensor.count .dynamic
  paired : ∀ k i j, IsDynamic c.view k i → IsDynamic c.tensor k j → view[i]? = sizes[j]?
  sizes_fit : Word.PrefixesFit sizes
  view_fits : Word.PrefixesFit view
  total_eq : Word.total sizes = Word.total view

@[simp] theorem value_reject {α : Type} (e : Option Event) :
    (reject e : Report (Option α)).value = none := rfl

section Rules

variable {rules : List AxisRule} {sizes : List Int64}

@[simp] theorem fixedMet_nil : FixedMet [] sizes := by simp [FixedMet]

theorem fixedMet_cons {rule : AxisRule} {size : Int64} :
    FixedMet (rule :: rules) (size :: sizes) ↔
      (∀ expected, rule = .fixed expected → expected = size) ∧ FixedMet rules sizes := by
  constructor
  · intro h
    exact ⟨fun expected he => by simpa [eq_comm] using h 0 expected (by simp [he]),
      fun dim expected => h (dim + 1) expected⟩
  · rintro ⟨head, tail⟩ dim expected h
    cases dim with
    | zero => simpa [eq_comm] using head expected (by simpa using h)
    | succ dim => exact tail dim expected h

@[simp] theorem fixedMet_cons_dynamic {size : Int64} :
    FixedMet (.dynamic :: rules) (size :: sizes) ↔ FixedMet rules sizes := by
  simp [fixedMet_cons]

@[simp] theorem fixedMet_cons_fixed {expected size : Int64} :
    FixedMet (.fixed expected :: rules) (size :: sizes) ↔ expected = size ∧ FixedMet rules sizes := by
  simp [fixedMet_cons]

def dynamicSizes : List AxisRule → List Int64 → List Int64
  | .dynamic :: rules, size :: sizes => size :: dynamicSizes rules sizes
  | .fixed _ :: rules, _ :: sizes => dynamicSizes rules sizes
  | _, _ => []

theorem length_dynamicSizes (h : rules.length = sizes.length) :
    (dynamicSizes rules sizes).length = rules.count .dynamic := by
  induction rules generalizing sizes with
  | nil => rfl
  | cons rule rules ih =>
    cases sizes with
    | nil => cases h
    | cons size sizes =>
      have rest := ih (Nat.succ.inj h)
      cases rule <;> simp [dynamicSizes, rest]

theorem getElem?_dynamicSizes {k dim : Nat} (h : IsDynamic rules k dim) (sizes : List Int64) :
    (dynamicSizes rules sizes)[k]? = sizes[dim]? := by
  induction rules generalizing k dim sizes with
  | nil => simp [IsDynamic] at h
  | cons rule rules ih =>
    obtain ⟨here, before⟩ := h
    cases sizes with
    | nil => simp [dynamicSizes]
    | cons size sizes =>
      cases dim with
      | zero =>
        obtain rfl : rule = .dynamic := by simpa using here
        obtain rfl : k = 0 := by simpa using before.symm
        rfl
      | succ dim =>
        cases rule with
        | dynamic =>
          obtain rfl : (rules.take dim).count .dynamic + 1 = k := by simpa using before
          simpa [dynamicSizes] using ih ⟨here, rfl⟩ sizes
        | fixed expected =>
          simpa [dynamicSizes] using ih ⟨here, by simpa using before⟩ sizes

theorem IsDynamic.lt_count {k dim : Nat} (h : IsDynamic rules k dim) : k < rules.count .dynamic := by
  obtain ⟨here, rfl⟩ := h
  have after : 0 < (rules.drop dim).count .dynamic := by
    rw [List.count_pos_iff]
    exact List.mem_of_getElem? (i := 0) (by simpa using here)
  have split : rules.count .dynamic = (rules.take dim).count .dynamic + (rules.drop dim).count .dynamic := by
    rw [← List.count_append, List.take_append_drop]
  omega

theorem exists_isDynamic {k : Nat} (h : k < rules.count .dynamic) : ∃ dim, IsDynamic rules k dim := by
  induction rules generalizing k with
  | nil => simp at h
  | cons rule rules ih =>
    cases rule with
    | dynamic =>
      cases k with
      | zero => exact ⟨0, rfl, rfl⟩
      | succ k =>
        obtain ⟨dim, here, before⟩ := ih (k := k) (by simpa using h)
        exact ⟨dim + 1, here, by simpa using before⟩
    | fixed expected =>
      obtain ⟨dim, here, before⟩ := ih (k := k) (by simpa using h)
      exact ⟨dim + 1, here, by simpa using before⟩

theorem value_checkTensor_eq_some_iff {queue rest : List Int64} {product elements : Int64}
    (h : rules.length = sizes.length) :
    (checkTensor queue product rules sizes).value = some (rest, elements) ↔
      FixedMet rules sizes ∧ queue ++ dynamicSizes rules sizes = rest ∧
        sizes.foldlM Word.mul? product = some elements := by
  induction rules generalizing sizes queue product with
  | nil =>
    obtain rfl := List.length_eq_zero_iff.1 h.symm
    simp [checkTensor, dynamicSizes]
  | cons rule rules ih =>
    cases sizes with
    | nil => cases h
    | cons size sizes =>
      have step {queue : List Int64} {product : Int64} := @ih sizes queue product (Nat.succ.inj h)
      cases rule with
      | dynamic =>
        cases hp : Word.mul? product size <;> simp [checkTensor, dynamicSizes, hp, step]
      | fixed expected =>
        by_cases he : expected = size
        · cases hp : Word.mul? product size <;> simp [checkTensor, dynamicSizes, he, hp, step]
        · simp [checkTensor, he]

theorem value_checkView_eq_some_iff {queue : List Int64} {product elements : Int64}
    (h : rules.length = sizes.length) :
    (checkView queue product rules sizes).value = some elements ↔
      FixedMet rules sizes ∧ dynamicSizes rules sizes <+: queue ∧
        sizes.foldlM Word.mul? product = some elements := by
  induction rules generalizing sizes queue product with
  | nil =>
    obtain rfl := List.length_eq_zero_iff.1 h.symm
    simp [checkView, dynamicSizes]
  | cons rule rules ih =>
    cases sizes with
    | nil => cases h
    | cons size sizes =>
      have step {queue : List Int64} {product : Int64} := @ih sizes queue product (Nat.succ.inj h)
      cases rule with
      | dynamic =>
        cases queue with
        | nil => simp [checkView, expect?, dynamicSizes]
        | cons first queue =>
          by_cases he : first = size
          · cases hp : Word.mul? product size <;>
              simp [checkView, expect?, dynamicSizes, he, hp, step, List.cons_prefix_cons]
          · simp [checkView, expect?, dynamicSizes, he, List.cons_prefix_cons, Ne.symm he]
      | fixed expected =>
        by_cases he : expected = size
        · cases hp : Word.mul? product size <;> simp [checkView, expect?, dynamicSizes, he, hp, step]
        · simp [checkView, expect?, he]

theorem dynamicSizes_prefix_iff {others : List AxisRule} {view : List Int64}
    (h : rules.length = sizes.length) (hv : others.length = view.length) :
    dynamicSizes others view <+: dynamicSizes rules sizes ↔
      others.count .dynamic ≤ rules.count .dynamic ∧
        ∀ k i j, IsDynamic others k i → IsDynamic rules k j → view[i]? = sizes[j]? := by
  rw [← length_dynamicSizes h, ← length_dynamicSizes hv]
  constructor
  · intro begins
    refine ⟨begins.length_le, fun k i j hi hj => ?_⟩
    have there : k < (dynamicSizes others view).length := by
      rw [length_dynamicSizes hv]
      exact hi.lt_count
    rw [← getElem?_dynamicSizes hi, ← getElem?_dynamicSizes hj, List.getElem?_eq_getElem there,
      List.prefix_iff_getElem?.1 begins k there]
  · rintro ⟨count_le, paired⟩
    rw [List.prefix_iff_getElem?]
    intro k hk
    obtain ⟨i, hi⟩ := exists_isDynamic (length_dynamicSizes hv ▸ hk)
    obtain ⟨j, hj⟩ := exists_isDynamic (length_dynamicSizes h ▸ Nat.lt_of_lt_of_le hk count_le)
    rw [← List.getElem?_eq_getElem hk, getElem?_dynamicSizes hi, getElem?_dynamicSizes hj, paired k i j hi hj]

end Rules

theorem value_check_eq_true_iff {c : ViewConstraint} {sizes view : List Int64} :
    (c.check sizes view).value = true ↔
      c.tensor.length = sizes.length ∧ c.view.length = view.length ∧
        ∃ queue elements, (checkTensor [] 1 c.tensor sizes).value = some (queue, elements) ∧
          (checkView queue 1 c.view view).value = some elements := by
  by_cases lengths : c.tensor.length = sizes.length ∧ c.view.length = view.length
  · have same : ¬(c.tensor.length ≠ sizes.length ∨ c.view.length ≠ view.length) := by simp [lengths]
    rw [check, if_neg same, Report.value_bind]
    cases (checkTensor [] 1 c.tensor sizes).value with
    | none => simp
    | some found =>
      obtain ⟨queue, elements⟩ := found
      cases hv : (checkView queue 1 c.view view).value with
      | none => simp [hv]
      | some viewElements => simpa [hv, lengths] using @eq_comm _ elements viewElements
  · have differ : c.tensor.length ≠ sizes.length ∨ c.view.length ≠ view.length := by
      rwa [← not_and_or]
    rw [check, if_pos differ]
    apply iff_of_false Bool.false_ne_true
    intro ⟨tensor_length, view_length, _⟩
    exact lengths ⟨tensor_length, view_length⟩

/-- The queue left out: what is accepted begins the dynamic sizes of the input, and both products are one word. -/
theorem value_check_eq_true_iff_begins {c : ViewConstraint} {sizes view : List Int64}
    (tensor_length : c.tensor.length = sizes.length) (view_length : c.view.length = view.length) :
    (c.check sizes view).value = true ↔
      FixedMet c.tensor sizes ∧ FixedMet c.view view ∧
        dynamicSizes c.view view <+: dynamicSizes c.tensor sizes ∧
        ∃ elements, Word.product? sizes = some elements ∧ Word.product? view = some elements := by
  simp only [value_check_eq_true_iff, value_checkTensor_eq_some_iff tensor_length,
    value_checkView_eq_some_iff view_length, List.nil_append]
  constructor
  · rintro ⟨-, -, _, elements, ⟨tensor_met, rfl, ht⟩, view_met, begins, hv⟩
    exact ⟨tensor_met, view_met, begins, elements, ht, hv⟩
  · rintro ⟨tensor_met, view_met, begins, elements, ht, hv⟩
    exact ⟨tensor_length, view_length, _, elements, ⟨tensor_met, rfl, ht⟩, view_met, begins, hv⟩

theorem check_eq_true_iff_accepts {c : ViewConstraint} {sizes view : List Int64} :
    (c.check sizes view).value = true ↔ c.Accepts sizes view := by
  rw [value_check_eq_true_iff]
  constructor
  · rintro ⟨tensor_length, view_length, queue, elements, queued, viewed⟩
    obtain ⟨tensor_fixed, rfl, ht⟩ := (value_checkTensor_eq_some_iff tensor_length).1 queued
    obtain ⟨view_fixed, begins, hv⟩ := (value_checkView_eq_some_iff view_length).1 viewed
    obtain ⟨count_le, paired⟩ := (dynamicSizes_prefix_iff tensor_length view_length).1 begins
    obtain ⟨sizes_total, sizes_fit⟩ := Word.product?_eq_some_iff.1 ht
    obtain ⟨view_total, view_fits⟩ := Word.product?_eq_some_iff.1 hv
    exact ⟨tensor_length, view_length, tensor_fixed, view_fixed, count_le, paired, sizes_fit, view_fits,
      sizes_total.symm.trans view_total⟩
  · intro h
    obtain ⟨elements, ht, value⟩ := h.sizes_fit.exists_product?
    have hv : Word.product? view = some elements :=
      Word.product?_eq_some_iff.2 ⟨value.trans h.total_eq, h.view_fits⟩
    have begins := (dynamicSizes_prefix_iff h.tensor_length h.view_length).2 ⟨h.count_le, h.paired⟩
    exact ⟨h.tensor_length, h.view_length, _, elements,
      (value_checkTensor_eq_some_iff h.tensor_length).2 ⟨h.tensor_fixed, rfl, ht⟩,
      (value_checkView_eq_some_iff h.view_length).2 ⟨h.view_fixed, begins, hv⟩⟩

end FusionGuards.ViewConstraint
