import FusionGuards.Proofs.RowMajor

namespace FusionGuards

theorem getElem?_rowMajorStrides {sizes : List Int64} {i : Nat} (h : i < sizes.length) :
    (rowMajorStrides sizes)[i]? = some (blockSize (sizes.drop (i + 1))) := by
  induction sizes generalizing i with
  | nil => cases h
  | cons s sizes ih =>
    cases i with
    | zero => rfl
    | succ i => simpa [rowMajorStrides] using ih (Nat.lt_of_succ_lt_succ h)

theorem one_le_blockSize (sizes : List Int64) : 1 ≤ blockSize sizes := by
  rw [Int64.le_iff_toInt_le, toInt_blockSize]
  exact le_min (by decide) (one_le_blockTotal sizes)

theorem blockSize_le_cons (s : Int64) (sizes : List Int64) : blockSize sizes ≤ blockSize (s :: sizes) := by
  rw [Int64.le_iff_toInt_le, toInt_blockSize, toInt_blockSize]
  exact min_le_min_left _ (blockTotal_le_cons s sizes)

theorem bounds_of_mem_rowMajorStrides {sizes : List Int64} {stride : Int64} (h : stride ∈ rowMajorStrides sizes) :
    1 ≤ stride ∧ stride ≤ blockSize sizes := by
  induction sizes with
  | nil => cases h
  | cons s sizes ih =>
    obtain rfl | h := List.mem_cons.1 h
    · exact ⟨one_le_blockSize sizes, blockSize_le_cons s sizes⟩
    · obtain ⟨lower, upper⟩ := ih h
      exact ⟨lower, Int64.le_trans upper (blockSize_le_cons s sizes)⟩

theorem rowMajorStrides_pairwise (sizes : List Int64) : (rowMajorStrides sizes).Pairwise (· ≥ ·) := by
  induction sizes with
  | nil => exact .nil
  | cons s sizes ih => exact List.pairwise_cons.2 ⟨fun stride h => (bounds_of_mem_rowMajorStrides h).2, ih⟩

theorem getLast?_rowMajorStrides {sizes : List Int64} (nonempty : sizes ≠ []) :
    (rowMajorStrides sizes).getLast? = some 1 := by
  rw [List.getLast?_eq_getElem?, length_rowMajorStrides]
  have pos := List.length_pos_iff.2 nonempty
  rw [getElem?_rowMajorStrides (by omega), List.drop_eq_nil_of_le (by omega)]
  rfl

theorem blockTotal_drop {sizes : List Int64} {i : Nat} {s : Int64} (h : sizes[i]? = some s) :
    blockTotal (sizes.drop i) = blockTotal (sizes.drop (i + 1)) * max s.toInt 1 := by
  obtain ⟨inside, rfl⟩ := List.getElem?_eq_some_iff.1 h
  rw [List.drop_eq_getElem_cons inside, blockTotal_cons, Int.mul_comm]

theorem rowMajorStrides_saturated (sizes : List Int64) :
    (rowMajorStrides sizes).length = sizes.length ∧
    (∀ i < sizes.length, (rowMajorStrides sizes)[i]?.map Int64.toInt =
      some (min (2 ^ 63 - 1) ((sizes.drop (i + 1)).map fun s => max s.toInt 1).prod)) ∧
    (∀ stride ∈ rowMajorStrides sizes, 1 ≤ stride) ∧
    (rowMajorStrides sizes).Pairwise (· ≥ ·) ∧
    (sizes ≠ [] → (rowMajorStrides sizes).getLast? = some 1) ∧
    ∀ i, ∀ s ∈ sizes[i + 1]?, ((sizes.drop (i + 1)).map fun s => max s.toInt 1).prod < 2 ^ 63 →
      ∃ outer ∈ (rowMajorStrides sizes)[i]?, ∃ inner ∈ (rowMajorStrides sizes)[i + 1]?,
        outer.toInt = inner.toInt * max s.toInt 1 := by
  refine ⟨length_rowMajorStrides sizes, fun i hi => ?_, fun stride h => (bounds_of_mem_rowMajorStrides h).1,
    rowMajorStrides_pairwise sizes, getLast?_rowMajorStrides, fun i s hs unsaturated => ?_⟩
  · rw [getElem?_rowMajorStrides hi, Option.map_some, toInt_blockSize]
    rfl
  · rw [Option.mem_def] at hs
    have inside : i + 1 < sizes.length := (List.getElem?_eq_some_iff.1 hs).1
    have outer : blockTotal (sizes.drop (i + 1)) < 2 ^ 63 := unsaturated
    have inner : blockTotal (sizes.drop (i + 2)) < 2 ^ 63 := by
      have smaller := blockTotal_tail_le (sizes.drop (i + 1))
      rw [List.tail_drop] at smaller
      exact lt_of_le_of_lt smaller outer
    refine ⟨_, getElem?_rowMajorStrides (by omega), _, getElem?_rowMajorStrides inside, ?_⟩
    rw [toInt_blockSize_of_lt outer, toInt_blockSize_of_lt inner, blockTotal_drop hs]

end FusionGuards
