import FusionGuards.Proofs.Product
import FusionGuards.View.Inference
import Mathlib.Data.List.Induction
import Mathlib.Data.List.InsertIdx

namespace FusionGuards

namespace Word

def add? (a b : Int64) : Option Int64 := ofInt? (a.toInt + b.toInt)

theorem exists_add? {a b : Int64} (negative : a < 0) (nonneg : 0 ≤ b.toInt) :
    ∃ sum, add? a b = some sum ∧ sum.toInt = a.toInt + b.toInt := by
  rw [Int64.lt_iff_toInt_lt, Int64.toInt_zero] at negative
  have lower := a.le_toInt
  have upper := b.toInt_lt
  have fits : Fits (a.toInt + b.toInt) := ⟨by omega, by omega⟩
  obtain ⟨sum, value⟩ := fits.exists_toInt_eq
  exact ⟨sum, ofInt?_eq_some_iff.2 value, value⟩

end Word

namespace View

/-- A dimension stands for an axis among `count`, counted from the front, or from the end if it is negative. -/
def Addresses (dim : Int64) (count axis : Nat) : Prop :=
  axis < count ∧ (dim.toInt = axis ∨ dim.toInt = axis - count)

def InRange (dim : Int64) (count : Nat) : Prop := -count ≤ dim.toInt ∧ dim.toInt < count

/-- `wrapDim` with all its steps in words. A count that is no word is a fault, a sum that is none leaves no answer. -/
def wrapDimInWords (dim : Int64) (count : Nat) : Option (Except Fault Nat) :=
  match Word.ofInt? count with
  | none => some (.error ⟨.view, .dimOutOfRange dim count⟩)
  | some length => do
    let wrapped ← if dim < 0 then Word.add? dim length else some dim
    return if 0 ≤ wrapped ∧ wrapped < length then .ok wrapped.toInt.toNat
      else .error ⟨.view, .dimOutOfRange dim count⟩

section WrapDim

variable {dim : Int64} {count : Nat}

theorem Addresses.unique {i j : Nat} (hi : Addresses dim count i) (hj : Addresses dim count j) : i = j := by
  obtain ⟨insideI, thereI⟩ := hi
  obtain ⟨insideJ, thereJ⟩ := hj
  omega

theorem inRange_iff_exists_addresses : InRange dim count ↔ ∃ i, Addresses dim count i := by
  constructor
  · rintro ⟨lower, upper⟩
    by_cases negative : dim.toInt < 0
    · exact ⟨(dim.toInt + count).toNat, by omega, .inr (by omega)⟩
    · exact ⟨dim.toInt.toNat, by omega, .inl (by omega)⟩
  · rintro ⟨i, inside, there⟩
    constructor <;> omega

theorem wrapDim_of_addresses {i : Nat} (h : Addresses dim count i) : wrapDim dim count = .ok i := by
  obtain ⟨inside, there⟩ := h
  have wrapped : (if dim < 0 then dim.toInt + count else dim.toInt) = i := by
    simp only [Int64.lt_iff_toInt_lt, Int64.toInt_zero]
    split <;> omega
  rw [wrapDim]
  simp [wrapped, inside]

theorem wrapDim_of_not_inRange (h : ¬InRange dim count) :
    wrapDim dim count = .error ⟨.view, .dimOutOfRange dim count⟩ := by
  rw [InRange] at h
  refine if_neg ?_
  simp only [Int64.lt_iff_toInt_lt, Int64.toInt_zero]
  split <;> omega

section Map

variable {α : Type} {f : Nat → α}

theorem map_wrapDim_eq_ok_iff {a : α} :
    (wrapDim dim count).map f = .ok a ↔ ∃ i, Addresses dim count i ∧ a = f i := by
  by_cases inRange : InRange dim count
  · obtain ⟨i, h⟩ := inRange_iff_exists_addresses.1 inRange
    rw [wrapDim_of_addresses h, Except.map, Except.ok.injEq]
    refine ⟨fun same => ⟨i, h, same.symm⟩, ?_⟩
    rintro ⟨j, h', rfl⟩
    rw [h.unique h']
  · rw [wrapDim_of_not_inRange inRange]
    refine iff_of_false nofun ?_
    rintro ⟨i, h, -⟩
    exact inRange (inRange_iff_exists_addresses.2 ⟨i, h⟩)

theorem map_wrapDim_eq_error_iff {fault : Fault} :
    (wrapDim dim count).map f = .error fault ↔ ¬InRange dim count ∧ fault = ⟨.view, .dimOutOfRange dim count⟩ := by
  by_cases inRange : InRange dim count
  · obtain ⟨i, h⟩ := inRange_iff_exists_addresses.1 inRange
    rw [wrapDim_of_addresses h]
    exact iff_of_false nofun fun both => both.1 inRange
  · rw [wrapDim_of_not_inRange inRange, Except.map, Except.error.injEq, and_iff_right inRange, eq_comm]

theorem exists_map_wrapDim_eq_ok_iff : (∃ a, (wrapDim dim count).map f = .ok a) ↔ InRange dim count := by
  simp only [map_wrapDim_eq_ok_iff, inRange_iff_exists_addresses]
  exact ⟨fun ⟨_, i, h, _⟩ => ⟨i, h⟩, fun ⟨i, h⟩ => ⟨f i, i, h, rfl⟩⟩

end Map

theorem wrapDimInWords_eq (dim : Int64) (count : Nat) : wrapDimInWords dim count =
    some (if count < 2 ^ 63 then wrapDim dim count else .error ⟨.view, .dimOutOfRange dim count⟩) := by
  unfold wrapDimInWords
  by_cases fits : count < 2 ^ 63
  · have word : Word.Fits count := ⟨by omega, by omega⟩
    obtain ⟨length, length_eq⟩ := word.exists_toInt_eq
    rw [Word.ofInt?_eq_some_iff.2 length_eq, if_pos fits, wrapDim, ← length_eq]
    have nonneg : 0 ≤ length.toInt := length_eq ▸ Int.natCast_nonneg count
    by_cases negative : dim < 0
    · obtain ⟨wrapped, sum, value⟩ := Word.exists_add? negative nonneg
      simp [negative, sum, ← value, Int64.le_iff_toInt_le, Int64.lt_iff_toInt_lt]
    · simp [negative, Int64.le_iff_toInt_le, Int64.lt_iff_toInt_lt]
  · have wide : Word.ofInt? count = none := by
      rw [Option.eq_none_iff_forall_not_mem]
      intro length there
      have value := Word.ofInt?_eq_some_iff.1 there
      have upper := length.toInt_lt
      omega
    rw [wide, if_neg fits]

end WrapDim

theorem take_append_cons_drop {α : Type} {xs : List α} {i : Nat} (inside : i ≤ xs.length) (a : α) :
    xs.take i ++ a :: xs.drop i = xs.insertIdx i a := by
  induction i generalizing xs with
  | zero => rfl
  | succ i ih =>
    cases xs with
    | nil => simp at inside
    | cons x xs => simp [ih (Nat.le_of_succ_le_succ inside)]

section Axis

variable {sizes : List Int64} {dim : Int64} {i : Nat}

theorem unsqueeze_of_addresses (h : Addresses dim (sizes.length + 1) i) :
    unsqueeze sizes dim = .ok (sizes.insertIdx i 1) := by
  rw [unsqueeze, wrapDim_of_addresses h, ← take_append_cons_drop (Nat.le_of_lt_succ h.1)]
  rfl

theorem squeezeAt_of_addresses (h : Addresses dim sizes.length i) :
    squeezeAt sizes dim = .ok (if sizes[i]? = some 1 then sizes.eraseIdx i else sizes) := by
  rw [squeezeAt, wrapDim_of_addresses h]
  rfl

theorem squeezeAt_insertIdx (h : Addresses dim (sizes.length + 1) i) :
    squeezeAt (sizes.insertIdx i 1) dim = .ok sizes := by
  have inside := Nat.le_of_lt_succ h.1
  rw [← List.length_insertIdx_of_le_length inside] at h
  rw [squeezeAt_of_addresses h, List.getElem?_insertIdx_self, if_pos inside, if_pos rfl, List.eraseIdx_insertIdx_self]

theorem unsqueeze_eraseIdx (h : Addresses dim sizes.length i) (one : sizes[i]? = some 1) :
    unsqueeze (sizes.eraseIdx i) dim = .ok sizes := by
  obtain ⟨inside, size⟩ := List.getElem?_eq_some_iff.1 one
  have length : (sizes.eraseIdx i).length + 1 = sizes.length := by
    rw [List.length_eraseIdx_of_lt inside]
    omega
  rw [← length] at h
  rw [unsqueeze_of_addresses h, ← size, List.insertIdx_eraseIdx_getElem inside]

end Axis

theorem unsqueeze_squeezeAt_inverse (sizes : List Int64) (dim : Int64) :
    ((∃ r, unsqueeze sizes dim = .ok r) ↔ -(sizes.length + 1 : Int) ≤ dim.toInt ∧ dim.toInt ≤ sizes.length) ∧
    (∀ r, unsqueeze sizes dim = .ok r →
      ∃ i, Addresses dim (sizes.length + 1) i ∧ r = sizes.insertIdx i 1 ∧ squeezeAt r dim = .ok sizes) ∧
    ((∃ r, squeezeAt sizes dim = .ok r) ↔ -(sizes.length : Int) ≤ dim.toInt ∧ dim.toInt < sizes.length) ∧
    (∀ r, squeezeAt sizes dim = .ok r → ∃ i size, Addresses dim sizes.length i ∧ sizes[i]? = some size ∧
      (size = 1 → r = sizes.eraseIdx i ∧ unsqueeze r dim = .ok sizes) ∧ (size ≠ 1 → r = sizes)) ∧
    (∀ f, unsqueeze sizes dim = .error f → f = ⟨.view, .dimOutOfRange dim (sizes.length + 1)⟩) ∧
    (∀ f, squeezeAt sizes dim = .error f → f = ⟨.view, .dimOutOfRange dim sizes.length⟩) ∧
    ∀ count, ∃ answer, wrapDimInWords dim count = some answer ∧ (count < 2 ^ 63 → answer = wrapDim dim count) := by
  refine ⟨?_, fun r put => ?_, ?_, fun r taken => ?_, fun f fault => ?_, fun f fault => ?_, fun count => ?_⟩
  · rw [unsqueeze, exists_map_wrapDim_eq_ok_iff, InRange]
    omega
  · obtain ⟨i, h, rfl⟩ := map_wrapDim_eq_ok_iff.1 put
    rw [take_append_cons_drop (Nat.le_of_lt_succ h.1)]
    exact ⟨i, h, rfl, squeezeAt_insertIdx h⟩
  · rw [squeezeAt, exists_map_wrapDim_eq_ok_iff, InRange]
  · obtain ⟨i, h, rfl⟩ := map_wrapDim_eq_ok_iff.1 taken
    obtain ⟨size, there⟩ : ∃ size, sizes[i]? = some size := ⟨_, List.getElem?_eq_getElem h.1⟩
    rw [there]
    refine ⟨i, size, h, there, ?_, fun other => if_neg (mt Option.some.inj other)⟩
    rintro rfl
    rw [if_pos rfl]
    exact ⟨rfl, unsqueeze_eraseIdx h there⟩
  · exact (map_wrapDim_eq_error_iff.1 fault).2
  · exact (map_wrapDim_eq_error_iff.1 fault).2
  · exact ⟨_, wrapDimInWords_eq dim count, fun fits => if_pos fits⟩

theorem unsqueeze_squeezeAt_from_end :
    unsqueeze [2, 1, 3] (-2) = .ok [2, 1, 1, 3] ∧ squeezeAt [2, 1, 1, 3] (-2) = .ok [2, 1, 3] ∧
      squeezeAt [2, 1, 3] (-2) = .ok [2, 3] ∧ unsqueeze [2, 3] (-2) = .ok [2, 1, 3] ∧
      unsqueeze [2, 1, 3] (-9223372036854775808) = .error ⟨.view, .dimOutOfRange (-9223372036854775808) 4⟩ := by
  obtain ⟨-, put, -, taken, -⟩ := unsqueeze_squeezeAt_inverse [2, 1, 3] (-2)
  have longer : unsqueeze [2, 1, 3] (-2) = .ok [2, 1, 1, 3] := by rfl
  have shorter : squeezeAt [2, 1, 3] (-2) = .ok [2, 3] := by rfl
  obtain ⟨-, -, -, back⟩ := put _ longer
  obtain ⟨i, size, there, found, one, -⟩ := taken _ shorter
  obtain rfl : i = 1 := there.unique ⟨by decide, .inr (by decide)⟩
  exact ⟨longer, back, shorter, (one (Option.some.inj found).symm).2, by rfl⟩

section All

variable {dim : Int64} {dims before after : List Int64}

theorem squeeze_append (xs ys : List Int64) : squeeze (xs ++ ys) = squeeze xs ++ squeeze ys := List.filter_append ..

theorem squeezeAt_append {size : Int64} (h : Addresses dim (before ++ size :: after).length before.length) :
    squeezeAt (before ++ size :: after) dim = .ok (before ++ (squeeze [size] ++ after)) := by
  rw [squeezeAt_of_addresses h]
  by_cases one : size = 1 <;> simp [squeeze, one, List.eraseIdx_append_of_length_le]

/-- The dimensions of so many axes, from the last to the first. -/
def Downwards (dims : List Int64) (count : Nat) : Prop := dims.map Int64.toInt = (List.range count).reverse.map (↑)

theorem exists_downwards {count : Nat} (words : count ≤ 2 ^ 63) : ∃ dims, Downwards dims count := by
  induction count with
  | zero => exact ⟨[], rfl⟩
  | succ last ih =>
    obtain ⟨dims, downwards⟩ := ih (Nat.le_of_succ_le words)
    have fits : Word.Fits last := ⟨by omega, by omega⟩
    obtain ⟨dim, there⟩ := fits.exists_toInt_eq
    refine ⟨dim :: dims, ?_⟩
    rw [Downwards, List.range_succ, List.reverse_append]
    exact List.cons_eq_cons.2 ⟨there, downwards⟩

theorem foldlM_squeezeAt (downwards : Downwards dims before.length) :
    dims.foldlM squeezeAt (before ++ after) = .ok (squeeze before ++ after) := by
  -- From the end, as that is where squeezing begins. What stands behind is squeezed already.
  induction before using List.reverseRecOn generalizing after dims with
  | nil =>
    obtain rfl : dims = [] := List.map_eq_nil_iff.1 downwards
    rfl
  | append_singleton before size ih =>
    rw [Downwards, List.length_append, List.length_singleton, List.range_succ, List.reverse_append] at downwards
    cases dims with
    | nil => simp at downwards
    | cons dim dims =>
      obtain ⟨last, rest⟩ := List.cons.inj downwards
      rw [List.append_assoc, List.singleton_append, List.foldlM_cons, squeezeAt_append ⟨by simp, .inl last⟩,
        squeeze_append, List.append_assoc]
      exact ih rest

theorem total_squeeze (sizes : List Int64) : Word.total (squeeze sizes) = Word.total sizes := by
  induction sizes with
  | nil => rfl
  | cons size sizes ih =>
    by_cases one : size = 1
    · rw [squeeze, List.filter_cons_of_neg (by simpa using one), Word.total_cons, one]
      exact ih.trans (Int.one_mul _).symm
    · rw [squeeze, List.filter_cons_of_pos (by simpa using one), Word.total_cons, Word.total_cons]
      exact congrArg _ ih

theorem count_squeeze (sizes : List Int64) (size : Int64) :
    (squeeze sizes).count size = if size = 1 then 0 else sizes.count size := by
  split
  case isTrue one =>
    rw [one, List.count_eq_zero]
    simp [squeeze]
  case isFalse other => exact List.count_filter (by simpa using other)

theorem squeeze_squeeze (sizes : List Int64) : squeeze (squeeze sizes) = squeeze sizes := by simp [squeeze]

theorem squeeze_squeezeAt {sizes : List Int64} {i : Nat} (h : Addresses dim sizes.length i) :
    (squeezeAt sizes dim).map squeeze = .ok (squeeze sizes) := by
  obtain ⟨before, size, after, rfl, rfl⟩ : ∃ before size after, before.length = i ∧ sizes = before ++ size :: after :=
    have inside := h.1
    ⟨sizes.take i, sizes[i], sizes.drop (i + 1), List.length_take_of_le inside.le, by simp⟩
  rw [squeezeAt_append h]
  refine congrArg Except.ok ?_
  rw [squeeze_append, squeeze_append, squeeze_squeeze, ← squeeze_append, ← squeeze_append]
  rfl

theorem squeeze_unsqueeze {sizes : List Int64} {i : Nat} (h : Addresses dim (sizes.length + 1) i) :
    (unsqueeze sizes dim).map squeeze = .ok (squeeze sizes) := by
  rw [unsqueeze, wrapDim_of_addresses h]
  refine congrArg Except.ok ((squeeze_append _ _).trans ?_)
  conv_rhs => rw [← List.take_append_drop i sizes, squeeze_append]
  rfl

end All

theorem squeeze_axis_by_axis (sizes : List Int64) :
    (sizes.length ≤ 2 ^ 63 → ∃ dims, Downwards dims sizes.length) ∧
    (∀ dims, Downwards dims sizes.length → dims.foldlM squeezeAt sizes = .ok (squeeze sizes)) ∧
    squeeze (squeeze sizes) = squeeze sizes ∧ Word.total (squeeze sizes) = Word.total sizes ∧
    (squeeze sizes).Sublist sizes ∧
    (∀ size, (squeeze sizes).count size = if size = 1 then 0 else sizes.count size) ∧
    ∀ dim : Int64, -(sizes.length + 1 : Int) ≤ dim.toInt → dim.toInt ≤ sizes.length →
      (unsqueeze sizes dim).map squeeze = .ok (squeeze sizes) := by
  refine ⟨exists_downwards, fun dims downwards => ?_, squeeze_squeeze sizes, total_squeeze sizes, List.filter_sublist,
    count_squeeze sizes, fun dim lower upper => ?_⟩
  · have all : dims.foldlM squeezeAt (sizes ++ []) = .ok (squeeze sizes ++ []) := foldlM_squeezeAt downwards
    rwa [List.append_nil, List.append_nil] at all
  · obtain ⟨i, h⟩ := inRange_iff_exists_addresses.1 (⟨by omega, by omega⟩ : InRange dim (sizes.length + 1))
    exact squeeze_unsqueeze h

theorem squeeze_axis_by_axis_six :
    Downwards [5, 4, 3, 2, 1, 0] 6 ∧ [5, 4, 3, 2, 1, 0].foldlM squeezeAt [1, 2, 1, 1, 3, 1] = .ok [2, 3] ∧
      (unsqueeze [1, 2, 1, 1, 3, 1] (-7)).map squeeze = .ok [2, 3] := by
  obtain ⟨-, each, -, -, -, -, inserted⟩ := squeeze_axis_by_axis [1, 2, 1, 1, 3, 1]
  have downwards : Downwards [5, 4, 3, 2, 1, 0] 6 := by rfl
  exact ⟨downwards, each _ downwards, inserted (-7) (by decide) (by decide)⟩

end View

end FusionGuards
