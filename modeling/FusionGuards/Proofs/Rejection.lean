import FusionGuards.Compliance
import FusionGuards.Proofs.Pairing

namespace FusionGuards

namespace Report

/-- One trace event for a refusal, and none for anything else. -/
structure SaysWhy (r : Report α) (refusal : α) : Prop where
  refused : r.value = refusal → ∃ e, r.events = [e] ∧ e.level = .trace
  otherwise : r.value ≠ refusal → r.events = []

/-- A report that says why it refuses, except on a condition on which it refuses in silence. -/
structure SaysWhyUnless (r : Report α) (refusal : α) (silent : Prop) : Prop where
  of_silent : silent → r.value = refusal ∧ r.events = []
  saysWhy : ¬silent → r.SaysWhy refusal

theorem saysWhy_pure {a refusal : α} (accepted : a ≠ refusal) : (pure a : Report α).SaysWhy refusal where
  refused same := absurd same accepted
  otherwise _ := rfl

theorem saysWhyUnless_pure_some (a : α) {silent : Prop} (h : ¬silent) :
    (pure (some a) : Report (Option α)).SaysWhyUnless none silent where
  of_silent s := absurd s h
  saysWhy _ := saysWhy_pure (Option.some_ne_none a)

theorem saysWhyUnless_pure (b : Bool) : (pure b : Report Bool).SaysWhyUnless false (b = false) where
  of_silent refused := ⟨refused, rfl⟩
  saysWhy accepted := saysWhy_pure accepted

theorem SaysWhyUnless.bind {r : Report (Option α)} {f : Option α → Report Bool} {early : Prop} {late : α → Prop}
    (first : r.SaysWhyUnless none early) (nothing : f none = pure false)
    (second : ∀ a, r.value = some a → (f (some a)).SaysWhyUnless false (late a)) :
    (r >>= f).SaysWhyUnless false (early ∨ ∃ a, r.value = some a ∧ late a) := by
  cases found : r.value with
  | none =>
    have value : (r >>= f).value = false := by rw [value_bind, found, nothing, value_pure]
    have events : (r >>= f).events = r.events := by rw [events_bind, found, nothing, events_pure, List.append_nil]
    refine ⟨fun silent => ⟨value, ?_⟩, fun loud => ⟨fun _ => ?_, fun accepted => absurd value accepted⟩⟩
    · rw [events]
      exact (first.of_silent (silent.resolve_right (by simp))).2
    · rw [events]
      exact (first.saysWhy fun silent => loud (.inl silent)).refused found
  | some a =>
    have loud : ¬early := fun silent => by simpa [found] using (first.of_silent silent).1
    have before : r.events = [] := (first.saysWhy loud).otherwise (by simp [found])
    have value : (r >>= f).value = (f (some a)).value := by rw [value_bind, found]
    have events : (r >>= f).events = (f (some a)).events := by rw [events_bind, found, before, List.nil_append]
    obtain ⟨of_silent, saysWhy⟩ := second a found
    simp only [loud, false_or, Option.some.injEq, exists_eq_left']
    refine ⟨fun silent => ?_, fun not_silent => ?_⟩
    · rw [value, events]
      exact of_silent silent
    · obtain ⟨refused, otherwise⟩ := saysWhy not_silent
      exact ⟨fun same => events ▸ refused (value ▸ same), fun differ => events ▸ otherwise (value ▸ differ)⟩

end Report

namespace Signature

variable {t : Tensor} {w : Walk} {position : Nat} {unknown : Bool}

theorem saysWhy_reject {e : Event} (level : e.level = .trace) : (reject e).run.SaysWhy (.ok false) where
  refused _ := ⟨e, rfl, level⟩
  otherwise accepted := absurd rfl accepted

theorem saysWhy_fault (c : Cause) : (fault c).run.SaysWhy (.ok false) where
  refused same := by cases same
  otherwise _ := rfl

theorem level_of_checkSize {dim : Nat} {recorded : Option Int64} {size : Int64} {e : Event}
    (found : checkSize dim recorded size = some e) : e.level = .trace := by
  cases recorded with
  | none => cases found
  | some r =>
    rw [checkSize] at found
    split at found
    · cases found
      rfl
    · split at found
      · cases found
        rfl
      · cases found

theorem level_of_checkSlot {slot : StrideSlot} {e : Event}
    (found : checkSlot t w position unknown slot = .mismatch e) : e.level = .trace := by
  rw [checkSlot] at found
  repeat' split at found
  all_goals cases found
  · rfl
  · rfl

theorem saysWhy_checkFrom (slots : List StrideSlot) (recorded : List (Option Int64)) (sizes : List Int64) :
    (checkFrom t w position unknown slots recorded sizes).run.SaysWhy (.ok false) := by
  induction slots generalizing w position unknown recorded sizes with
  | nil => exact Report.saysWhy_pure (by simp)
  | cons slot slots ih =>
    cases recorded with
    | nil => exact Report.saysWhy_pure (by simp)
    | cons r recorded =>
      cases sizes with
      | nil => exact Report.saysWhy_pure (by simp)
      | cons size sizes =>
        rw [checkFrom]
        cases slot_found : checkSlot t w position unknown slot with
        | fault c => exact saysWhy_fault c
        | mismatch e => exact saysWhy_reject (level_of_checkSlot slot_found)
        | beyond w' =>
          cases size_found : checkSize position r size with
          | some e => exact saysWhy_reject (level_of_checkSize size_found)
          | none => exact ih ..

theorem saysWhy_complies (s : Signature) (t : Tensor) (gradMode : Bool) :
    (s.complies t gradMode).run.SaysWhy (.ok false) := by
  rw [complies]
  split
  · exact saysWhy_fault _
  split_ifs
  · exact saysWhy_reject rfl
  · exact saysWhy_reject rfl
  · exact saysWhy_reject rfl
  · exact saysWhy_reject rfl
  · exact saysWhy_fault _
  · exact saysWhy_checkFrom ..

end Signature

namespace Word

/-- The least number of factors whose product with `a` does not fit. -/
def OverflowsAt (a : Int) (xs : List Int64) (n : Nat) : Prop :=
  ¬Fits (a * total (xs.take n)) ∧ ∀ m < n, Fits (a * total (xs.take m))

theorem overflowsAt_zero_iff {a : Int} {xs : List Int64} : OverflowsAt a xs 0 ↔ ¬Fits a := by
  simp [OverflowsAt]

theorem overflowsAt_succ_iff {a : Int} {x : Int64} {xs : List Int64} {n : Nat} (fits : Fits a) :
    OverflowsAt a (x :: xs) (n + 1) ↔ OverflowsAt (a * x.toInt) xs n := by
  simp only [OverflowsAt, Nat.forall_lt_succ_left, List.take_succ_cons, List.take_zero, total_cons, total_nil,
    Int.mul_one, Int.mul_assoc, fits, true_and]

theorem exists_overflowsAt_cons_iff {a : Int} {x : Int64} {xs : List Int64} {p : Nat → Prop} (fits : Fits a) :
    (∃ n, OverflowsAt a (x :: xs) n ∧ p n) ↔ ∃ n, OverflowsAt (a * x.toInt) xs n ∧ p (n + 1) := by
  rw [← Nat.or_exists_add_one]
  simp [overflowsAt_zero_iff, overflowsAt_succ_iff, fits]

theorem not_overflowsAt_nil {a : Int} (fits : Fits a) (n : Nat) : ¬OverflowsAt a [] n := by
  simp [OverflowsAt, fits]

end Word

namespace ViewConstraint

variable {rule : AxisRule} {rules : List AxisRule} {size product : Int64} {sizes queue : List Int64} {a : Int}

def TensorOverflows (a : Int) (rules : List AxisRule) (sizes : List Int64) : Prop :=
  ∃ n, Word.OverflowsAt a sizes n ∧ FixedMet (rules.take n) (sizes.take n)

def ViewOverflows (a : Int) (queue : List Int64) (rules : List AxisRule) (sizes : List Int64) : Prop :=
  ∃ n, Word.OverflowsAt a sizes n ∧ FixedMet (rules.take n) (sizes.take n) ∧
    dynamicSizes (rules.take n) (sizes.take n) <+: queue

theorem tensorOverflows_of_not_fits (wide : ¬Word.Fits a) : TensorOverflows a rules sizes :=
  ⟨0, Word.overflowsAt_zero_iff.2 wide, fixedMet_nil⟩

theorem tensorOverflows_cons (fits : Word.Fits a) :
    TensorOverflows a (rule :: rules) (size :: sizes) ↔
      (∀ expected, rule = .fixed expected → expected = size) ∧ TensorOverflows (a * size.toInt) rules sizes := by
  rw [TensorOverflows, Word.exists_overflowsAt_cons_iff fits, TensorOverflows]
  simp only [List.take_succ_cons, fixedMet_cons]
  exact ⟨fun ⟨n, wide, head, tail⟩ => ⟨head, n, wide, tail⟩, fun ⟨head, n, wide, tail⟩ => ⟨n, wide, head, tail⟩⟩

theorem viewOverflows_of_not_fits (wide : ¬Word.Fits a) : ViewOverflows a queue rules sizes :=
  ⟨0, Word.overflowsAt_zero_iff.2 wide, fixedMet_nil, List.nil_prefix⟩

theorem viewOverflows_cons (fits : Word.Fits a) :
    ViewOverflows a queue (rule :: rules) (size :: sizes) ↔
      ∃ rest, expect? queue rule = some (size, rest) ∧ ViewOverflows (a * size.toInt) rest rules sizes := by
  rw [ViewOverflows, Word.exists_overflowsAt_cons_iff fits]
  simp only [ViewOverflows, List.take_succ_cons]
  cases rule with
  | fixed expected =>
    simp only [fixedMet_cons_fixed, dynamicSizes, expect?, Option.some.injEq, Prod.mk.injEq]
    grind
  | dynamic =>
    cases queue with
    | nil => simp [expect?, dynamicSizes]
    | cons first queue =>
      simp only [fixedMet_cons_dynamic, dynamicSizes, List.cons_prefix_cons, expect?, Option.some.injEq, Prod.mk.injEq]
      grind

theorem saysWhyUnless_reject_some {α : Type} {e : Event} (level : e.level = .trace) {silent : Prop} (h : ¬silent) :
    (reject (some e) : Report (Option α)).SaysWhyUnless none silent where
  of_silent s := absurd s h
  saysWhy _ := ⟨fun _ => ⟨e, rfl, level⟩, fun accepted => absurd rfl accepted⟩

theorem saysWhyUnless_reject_none {α : Type} {silent : Prop} (h : silent) :
    (reject none : Report (Option α)).SaysWhyUnless none silent where
  of_silent _ := ⟨rfl, rfl⟩
  saysWhy loud := absurd h loud

/-- Once an axis is as its rule wants, only the product can end the check there. -/
theorem checkTensor_cons_of_met (met : ∀ expected, rule = .fixed expected → expected = size) :
    checkTensor queue product (rule :: rules) (size :: sizes) = (Word.mul? product size).elim (reject none) fun p =>
      checkTensor (queue ++ dynamicSizes [rule] [size]) p rules sizes := by
  cases rule with
  | dynamic => cases hp : Word.mul? product size <;> simp [checkTensor, dynamicSizes, hp]
  | fixed expected =>
    have he := met expected rfl
    cases hp : Word.mul? product size <;> simp [checkTensor, dynamicSizes, he, hp]

theorem saysWhyUnless_checkTensor (h : rules.length = sizes.length) :
    (checkTensor queue product rules sizes).SaysWhyUnless none (TensorOverflows product.toInt rules sizes) := by
  induction rules generalizing sizes queue product with
  | nil =>
    obtain rfl := List.length_eq_zero_iff.1 h.symm
    exact Report.saysWhyUnless_pure_some _ fun ⟨n, wide, _⟩ => Word.not_overflowsAt_nil (Word.fits_toInt _) n wide
  | cons rule rules ih =>
    cases sizes with
    | nil => cases h
    | cons size sizes =>
      rw [tensorOverflows_cons (Word.fits_toInt product)]
      by_cases met : ∀ expected, rule = .fixed expected → expected = size
      · rw [checkTensor_cons_of_met met, and_iff_right met]
        cases hp : Word.mul? product size with
        | none => exact saysWhyUnless_reject_none (tensorOverflows_of_not_fits (Word.mul?_eq_none_iff.1 hp))
        | some p =>
          rw [← Word.mul?_eq_some_iff.1 hp]
          exact ih (Nat.succ.inj h)
      · push Not at met
        obtain ⟨expected, rfl, he⟩ := met
        rw [checkTensor, if_pos he]
        exact saysWhyUnless_reject_some rfl (by simp [he])

theorem saysWhyUnless_checkView (h : rules.length = sizes.length) :
    (checkView queue product rules sizes).SaysWhyUnless none (ViewOverflows product.toInt queue rules sizes) := by
  induction rules generalizing sizes queue product with
  | nil =>
    obtain rfl := List.length_eq_zero_iff.1 h.symm
    exact Report.saysWhyUnless_pure_some _ fun ⟨n, wide, _⟩ => Word.not_overflowsAt_nil (Word.fits_toInt _) n wide
  | cons rule rules ih =>
    cases sizes with
    | nil => cases h
    | cons size sizes =>
      rw [viewOverflows_cons (Word.fits_toInt product), checkView]
      rcases found : expect? queue rule with _ | ⟨expected, rest⟩
      · exact saysWhyUnless_reject_some rfl (by simp)
      · dsimp only
        by_cases he : expected = size
        · subst he
          rw [if_neg (by simp)]
          cases hp : Word.mul? product expected with
          | none =>
            exact saysWhyUnless_reject_none ⟨rest, rfl, viewOverflows_of_not_fits (Word.mul?_eq_none_iff.1 hp)⟩
          | some p =>
            rw [← Word.mul?_eq_some_iff.1 hp]
            simpa using ih (Nat.succ.inj h)
        · rw [if_pos he]
          exact saysWhyUnless_reject_some rfl (by simp [he])

/-- Where only counts are wrong: a product is too large and every axis up to there is as its rule wants, or all axes are
and the two products differ. -/
structure Miscounts (c : ViewConstraint) (sizes view : List Int64) : Prop where
  tensor_length : c.tensor.length = sizes.length
  view_length : c.view.length = view.length
  counts : TensorOverflows 1 c.tensor sizes ∨ FixedMet c.tensor sizes ∧ Word.PrefixesFit sizes ∧
    (ViewOverflows 1 (dynamicSizes c.tensor sizes) c.view view ∨
      FixedMet c.view view ∧ dynamicSizes c.view view <+: dynamicSizes c.tensor sizes ∧ Word.PrefixesFit view ∧
        Word.total sizes ≠ Word.total view)

section Check

variable {c : ViewConstraint} {sizes view : List Int64}

theorem miscounts_iff (tensor_length : c.tensor.length = sizes.length) (view_length : c.view.length = view.length) :
    c.Miscounts sizes view ↔ TensorOverflows 1 c.tensor sizes ∨
      ∃ found, (checkTensor [] 1 c.tensor sizes).value = some found ∧ (ViewOverflows 1 found.1 c.view view ∨
        ∃ elements, (checkView found.1 1 c.view view).value = some elements ∧ (found.2 == elements) = false) := by
  simp only [Prod.exists, value_checkTensor_eq_some_iff tensor_length, value_checkView_eq_some_iff view_length,
    List.nil_append, beq_eq_false_iff_ne]
  constructor
  · rintro ⟨-, -, wide | ⟨tensor_met, sizes_fit, wide | ⟨view_met, begins, view_fits, differ⟩⟩⟩
    · exact .inl wide
    · obtain ⟨elements, ht, -⟩ := sizes_fit.exists_product?
      exact .inr ⟨_, elements, ⟨tensor_met, rfl, ht⟩, .inl wide⟩
    · obtain ⟨elements, ht, tensor_total⟩ := sizes_fit.exists_product?
      obtain ⟨viewElements, hv, view_total⟩ := view_fits.exists_product?
      refine .inr ⟨_, elements, ⟨tensor_met, rfl, ht⟩, .inr ⟨viewElements, ⟨view_met, begins, hv⟩, ?_⟩⟩
      rintro rfl
      exact differ (tensor_total.symm.trans view_total)
  · rintro (wide | ⟨_, elements, ⟨tensor_met, rfl, ht⟩, later⟩)
    · exact ⟨tensor_length, view_length, .inl wide⟩
    · obtain ⟨tensor_total, sizes_fit⟩ := Word.product?_eq_some_iff.1 ht
      refine ⟨tensor_length, view_length, .inr ⟨tensor_met, sizes_fit, later.imp_right ?_⟩⟩
      rintro ⟨viewElements, ⟨view_met, begins, hv⟩, differ⟩
      obtain ⟨view_total, view_fits⟩ := Word.product?_eq_some_iff.1 hv
      refine ⟨view_met, begins, view_fits, fun same => differ ?_⟩
      rw [← Int64.toInt_inj, tensor_total, view_total, same]

theorem saysWhyUnless_check (c : ViewConstraint) (sizes view : List Int64) :
    (c.check sizes view).SaysWhyUnless false (c.Miscounts sizes view) := by
  by_cases lengths : c.tensor.length = sizes.length ∧ c.view.length = view.length
  · have same : ¬(c.tensor.length ≠ sizes.length ∨ c.view.length ≠ view.length) := by simp [lengths]
    rw [check, if_neg same, miscounts_iff lengths.1 lengths.2]
    refine (saysWhyUnless_checkTensor lengths.1).bind rfl fun found _ => ?_
    exact (saysWhyUnless_checkView lengths.2).bind rfl fun viewElements _ => Report.saysWhyUnless_pure _
  · have differ : c.tensor.length ≠ sizes.length ∨ c.view.length ≠ view.length := by rwa [← not_and_or]
    rw [check, if_pos differ]
    refine ⟨fun silent => absurd ⟨silent.tensor_length, silent.view_length⟩ lengths, fun _ => ⟨fun _ => ?_, ?_⟩⟩
    · exact ⟨_, rfl, rfl⟩
    · exact fun accepted => absurd rfl accepted

end Check

end ViewConstraint

/-- Only where counts are wrong does a refusal leave no event. -/
theorem refusals_say_why (s : Signature) (t : Tensor) (gradMode : Bool) (c : ViewConstraint) (sizes view : List Int64) :
    (s.complies t gradMode).run.SaysWhy (.ok false) ∧
      (c.check sizes view).SaysWhyUnless false (c.Miscounts sizes view) :=
  ⟨s.saysWhy_complies t gradMode, c.saysWhyUnless_check sizes view⟩

theorem check_silent_count :
    (ViewConstraint.check ⟨[.fixed 6], [.fixed 3]⟩ [6] [3]).value = false ∧
      (ViewConstraint.check ⟨[.fixed 6], [.fixed 3]⟩ [6] [3]).events = [] := by
  decide

end FusionGuards
