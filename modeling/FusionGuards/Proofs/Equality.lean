import FusionGuards.Proofs.Number
import FusionGuards.Proofs.Stored

namespace FusionGuards

theorem Tensor.eq_of_parts {t u : Tensor} (sizes : t.sizes = u.sizes) (strides : t.strides = u.strides)
    (elementType : t.elementType = u.elementType) (device : t.device = u.device)
    (requiresGrad : t.requiresGrad = u.requiresGrad) : t = u := by
  cases t
  cases u
  subst sizes strides elementType device requiresGrad
  rfl

namespace Value

/-- Values of the same form all through. Lists are as long as each other and alike element by element. -/
inductive Alike : Value → Value → Prop
  | none : Alike none none
  | bool (b : Bool) : Alike (bool b) (bool b)
  | int (i : Int64) : Alike (int i) (int i)
  | double {d e : Double} {x : Double.Number} (left : d.number? = some x) (right : e.number? = some x) :
    Alike (double d) (double e)
  | str (s : String) : Alike (str s) (str s)
  | intList (xs : List Int64) : Alike (intList xs) (intList xs)
  | list {xs ys : List Value} (length : xs.length = ys.length)
      (elements : ∀ (i : Nat) (x y : Value), xs[i]? = some x → ys[i]? = some y → Alike x y) :
    Alike (list xs) (list ys)
  | tensor {t u : Tensor} (sizes : t.sizes = u.sizes) (strides : t.strides = u.strides)
      (elementType : t.elementType = u.elementType) (device : t.device = u.device)
      (requiresGrad : t.requiresGrad = u.requiresGrad) : Alike (tensor t) (tensor u)

theorem Alike.symm {x y : Value} (h : Alike x y) : Alike y x := by
  induction h with
  | none => exact .none
  | bool b => exact .bool b
  | int i => exact .int i
  | double left right => exact .double right left
  | str s => exact .str s
  | intList xs => exact .intList xs
  | list length _ ih => exact .list length.symm fun i y x hy hx => ih i x y hx hy
  | tensor sizes strides elementType device requiresGrad =>
    exact .tensor sizes.symm strides.symm elementType.symm device.symm requiresGrad.symm

theorem Alike.trans {x y z : Value} (xy : Alike x y) (yz : Alike y z) : Alike x z := by
  induction xy generalizing z with
  | none | bool | int | str | intList => exact yz
  | double left right =>
    cases yz with
    | double left' right' =>
      obtain rfl := Option.some.inj (right.symm.trans left')
      exact .double left right'
  | @list xs ys length _ ih =>
    cases yz with
    | list length' elements =>
      refine .list (length.trans length') fun i x z hx hz => ?_
      have inside : i < ys.length := length ▸ (List.getElem?_eq_some_iff.1 hx).1
      have middle : ys[i]? = some ys[i] := List.getElem?_eq_getElem inside
      exact ih i x ys[i] hx middle (elements i ys[i] z middle hz)
  | tensor sizes strides elementType device requiresGrad =>
    cases yz with
    | tensor sizes' strides' elementType' device' requiresGrad' =>
      exact .tensor (sizes.trans sizes') (strides.trans strides') (elementType.trans elementType')
        (device.trans device') (requiresGrad.trans requiresGrad')

mutual

theorem alike_of_equal : ∀ {x y : Value}, x.equal y = true → Alike x y
  | none, y, h => by
    cases y <;> simp [equal] at h
    exact .none
  | bool b, y, h => by
    cases y <;> simp [equal] at h
    exact h ▸ .bool b
  | int i, y, h => by
    cases y <;> simp [equal] at h
    exact h ▸ .int i
  | double d, y, h => by
    cases y <;> simp [equal, Double.equal_iff] at h
    obtain ⟨x, left, right⟩ := h
    exact .double left right
  | str s, y, h => by
    cases y <;> simp [equal] at h
    exact h ▸ .str s
  | intList xs, y, h => by
    cases y <;> simp [equal] at h
    exact h ▸ .intList xs
  | list xs, y, h => by
    cases y <;> simp [equal] at h
    exact .list (alike_of_equalAll h).1 (alike_of_equalAll h).2
  | tensor t, y, h => by
    cases y <;> simp [equal] at h
    exact h ▸ .tensor rfl rfl rfl rfl rfl

theorem alike_of_equalAll : ∀ {xs ys : List Value}, equalAll xs ys = true →
    xs.length = ys.length ∧ ∀ (i : Nat) (x y : Value), xs[i]? = some x → ys[i]? = some y → Alike x y
  | [], [], _ => by simp
  | [], _ :: _, h => by simp [equalAll] at h
  | _ :: _, [], h => by simp [equalAll] at h
  | x :: xs, y :: ys, h => by
    rw [equalAll, Bool.and_eq_true] at h
    obtain ⟨length, elements⟩ := alike_of_equalAll h.2
    refine ⟨congrArg Nat.succ length, fun i x' y' hx hy => ?_⟩
    cases i with
    | zero =>
      obtain rfl : x = x' := Option.some.inj hx
      obtain rfl : y = y' := Option.some.inj hy
      exact alike_of_equal h.1
    | succ i => exact elements i x' y' hx hy

end

theorem equalAll_of_elements {xs ys : List Value} (length : xs.length = ys.length)
    (elements : ∀ (i : Nat) (x y : Value), xs[i]? = some x → ys[i]? = some y → x.equal y = true) :
    equalAll xs ys = true := by
  induction xs generalizing ys with
  | nil =>
    obtain rfl := List.length_eq_zero_iff.1 length.symm
    rfl
  | cons x xs ih =>
    cases ys with
    | nil => cases length
    | cons y ys =>
      rw [equalAll, elements 0 x y rfl rfl, Bool.true_and]
      exact ih (Nat.succ.inj length) fun i => elements (i + 1)

theorem Alike.equal {x y : Value} (h : Alike x y) : x.equal y = true := by
  induction h with
  | none => rfl
  | double left right => exact Double.equal_iff.2 ⟨_, left, right⟩
  | list length _ ih => exact equalAll_of_elements length ih
  | tensor sizes strides elementType device requiresGrad =>
    exact beq_iff_eq.2 (Tensor.eq_of_parts sizes strides elementType device requiresGrad)
  | bool | int | str | intList => exact beq_self_eq_true _

mutual

theorem equal_self_iff : ∀ x : Value, x.equal x = true ↔ ∀ d ∈ x.doubles, d.isNaN = false
  | none => by simp [equal, doubles]
  | bool b => by simp [equal, doubles]
  | int i => by simp [equal, doubles]
  | double d => by simp [equal, doubles, Double.equal]
  | str s => by simp [equal, doubles]
  | intList xs => by simp [equal, doubles]
  | list xs => by simp [equal, doubles, equalAll_self_iff xs]
  | tensor t => by simp [equal, doubles]

theorem equalAll_self_iff : ∀ xs : List Value, equalAll xs xs = true ↔ ∀ d ∈ doublesAll xs, d.isNaN = false
  | [] => by simp [equalAll, doublesAll]
  | x :: xs => by
    simp [equalAll, doublesAll, equal_self_iff x, equalAll_self_iff xs, or_imp, forall_and]

end

theorem equal_partial_equivalence (x y z : Value) :
    (x.equal y = true ↔ Alike x y) ∧ x.equal y = y.equal x ∧
      (x.equal y = true → y.equal z = true → x.equal z = true) ∧
      (x.equal x = true ↔ ∀ d ∈ x.doubles, d.isNaN = false) ∧
      ∀ xs ys, (intList xs).equal (list ys) = false ∧ (list ys).equal (intList xs) = false := by
  refine ⟨⟨alike_of_equal, Alike.equal⟩, ?_, fun xy yz => ?_, equal_self_iff x, fun xs ys => ⟨rfl, rfl⟩⟩
  · rw [Bool.eq_iff_iff]
    exact ⟨fun xy => (alike_of_equal xy).symm.equal, fun yx => (alike_of_equal yx).symm.equal⟩
  · exact ((alike_of_equal xy).trans (alike_of_equal yz)).equal

theorem equal_signed_zeros :
    let plus : Value := list [intList [], list [double ⟨0⟩]]
    let minus : Value := list [intList [], list [double ⟨0x8000000000000000⟩]]
    plus.equal minus = true ∧ minus.equal plus = true ∧ plus.equal plus = true := by
  intro plus minus
  have there : plus.equal minus = true := by decide +kernel
  obtain ⟨-, symm, trans, -⟩ := equal_partial_equivalence plus minus plus
  have back := symm.symm.trans there
  exact ⟨there, back, trans there back⟩

end Value

end FusionGuards
