import FusionGuards.Proofs.Product
import FusionGuards.View.Inference
import Mathlib.Data.List.Forall2

namespace FusionGuards.View

/-- Requested sizes that make sense: one of them may be open, and the others are positive. -/
structure Requested (view : List Int64) : Prop where
  count_le : view.count openAxis ≤ 1
  pos : ∀ v ∈ view, v = openAxis ∨ 1 ≤ v

def explicit (view : List Int64) : List Int64 := view.filter (· ≠ openAxis)

def close (view : List Int64) (size : Int64) : List Int64 :=
  view.map fun v => if v = openAxis then size else v

def Completes (view sizes : List Int64) : Prop :=
  List.Forall₂ (fun v s => v ≠ openAxis → s = v) view sizes

structure Resolves (sizes view resolved : List Int64) : Prop where
  eq_of_closed : openAxis ∉ view → resolved = view
  completes : Completes view resolved
  total_eq : openAxis ∈ view → Word.total resolved = Word.total sizes
  unique : openAxis ∈ view → ∀ other, Completes view other →
    Word.total other = Word.total sizes → other = resolved

@[simp] theorem explicit_cons_open (view : List Int64) : explicit (openAxis :: view) = explicit view := by
  simp [explicit]

theorem explicit_cons_of_ne {v : Int64} (h : v ≠ openAxis) (view : List Int64) :
    explicit (v :: view) = v :: explicit view := by
  simp [explicit, h]

theorem explicit_eq_self {view : List Int64} (closed : openAxis ∉ view) : explicit view = view := by
  rw [explicit, List.filter_eq_self]
  intro v hv
  simpa using ne_of_mem_of_not_mem hv closed

theorem ne_openAxis_of_pos {v : Int64} (h : 1 ≤ v) : v ≠ openAxis := by
  rintro rfl
  exact absurd h (by decide)

theorem openAxis_notMem_of_pos {view : List Int64} (pos : ∀ v ∈ view, 1 ≤ v) : openAxis ∉ view :=
  fun mem => ne_openAxis_of_pos (pos _ mem) rfl

theorem requested_of_pos {view : List Int64} (pos : ∀ v ∈ view, 1 ≤ v) : Requested view where
  count_le := by
    rw [List.count_eq_zero_of_not_mem (openAxis_notMem_of_pos pos)]
    exact Nat.zero_le 1
  pos v hv := .inr (pos v hv)

theorem Requested.one_le_explicit {view : List Int64} (h : Requested view) :
    ∀ v ∈ explicit view, 1 ≤ v := by
  intro v hv
  obtain ⟨hv, hne⟩ := List.mem_filter.1 hv
  exact (h.pos v hv).resolve_left (by simpa using hne)

theorem notMem_of_count_cons_le {view : List Int64} (h : (openAxis :: view).count openAxis ≤ 1) :
    openAxis ∉ view := by
  rw [List.count_cons_self] at h
  exact List.count_eq_zero.1 (by omega)

theorem scan_append {view rest : List Int64} {dim : Nat} {seen : Scan}
    (count_le : seen.inferred.toList.length + view.count openAxis ≤ 1)
    (pos : ∀ v ∈ view, v = openAxis ∨ 1 ≤ v) :
    scan dim seen (view ++ rest) = match (explicit view).foldlM Word.mul? seen.elements with
      | none => .ok none
      | some elements => scan (dim + view.length)
          ⟨seen.inferred.or ((view.idxOf? openAxis).map (dim + ·)), elements⟩ rest := by
  induction view generalizing dim seen with
  | nil => simp [explicit]
  | cons v view ih =>
    obtain ⟨head, tail⟩ := List.forall_mem_cons.1 pos
    rw [List.cons_append]
    obtain rfl | large := head
    · rw [List.count_cons_self] at count_le
      have unseen : seen.inferred = none := by
        rw [← Option.toList_eq_nil_iff, ← List.length_eq_zero_iff]
        omega
      rw [scan, if_pos rfl, unseen, if_neg (by simp), ih (by change 1 + _ ≤ 1; omega) tail]
      simp [List.idxOf?_cons, Nat.add_assoc, Nat.add_comm 1]
    · have hne := ne_openAxis_of_pos large
      rw [scan, if_neg hne, if_neg (Word.not_le_zero_iff.2 large), explicit_cons_of_ne hne, List.foldlM_cons]
      cases Word.mul? seen.elements v with
      | none => rfl
      | some product =>
        dsimp only
        rw [ih (by simpa [hne] using count_le) tail]
        simp [List.idxOf?_cons, hne, Function.comp_def, Nat.add_assoc, Nat.add_comm 1]

theorem scan_of_requested_append {view : List Int64} (h : Requested view) (rest : List Int64) :
    scan 0 ⟨none, 1⟩ (view ++ rest) = match Word.product? (explicit view) with
      | none => .ok none
      | some elements => scan view.length ⟨view.idxOf? openAxis, elements⟩ rest := by
  rw [scan_append (by simpa using h.count_le) h.pos]
  simp [Word.product?]

theorem scan_of_requested {view : List Int64} (h : Requested view) :
    scan 0 ⟨none, 1⟩ view = .ok ((Word.product? (explicit view)).map fun elements =>
      ⟨view.idxOf? openAxis, elements⟩) := by
  have whole := scan_of_requested_append h []
  rw [List.append_nil] at whole
  rw [whole]
  cases Word.product? (explicit view) <;> rfl

theorem close_eq_self {view : List Int64} (closed : openAxis ∉ view) (size : Int64) :
    close view size = view := by
  induction view with
  | nil => rfl
  | cons v view ih =>
    rw [List.mem_cons, not_or] at closed
    simpa [close, Ne.symm closed.1] using ih closed.2

theorem fill_idxOf? {view : List Int64} (count_le : view.count openAxis ≤ 1) (size : Int64) :
    fill view (view.idxOf? openAxis) size = close view size := by
  induction view with
  | nil => rfl
  | cons v view ih =>
    by_cases h : v = openAxis
    · subst h
      have closed := close_eq_self (notMem_of_count_cons_le count_le) size
      simpa [fill, close, List.idxOf?_cons] using closed.symm
    · have rest := ih (by simpa [h] using count_le)
      cases hi : view.idxOf? openAxis with
      | none => simpa [fill, close, List.idxOf?_cons, h, hi] using rest
      | some i => simpa [fill, close, List.idxOf?_cons, h, hi] using rest

theorem total_close (view : List Int64) (size : Int64) :
    Word.total (close view size) =
      Word.total (explicit view) * size.toInt ^ view.count openAxis := by
  induction view with
  | nil => simp [close, explicit]
  | cons v view ih =>
    by_cases h : v = openAxis
    · subst h
      rw [explicit_cons_open, List.count_cons_self, pow_succ, ← Int.mul_assoc, ← ih]
      simp [close, Int.mul_comm]
    · rw [explicit_cons_of_ne h, List.count_cons_of_ne h, Word.total_cons, Int.mul_assoc, ← ih]
      simp [close, h]

theorem total_close_of_mem {view : List Int64} (count_le : view.count openAxis ≤ 1)
    (mem : openAxis ∈ view) (size : Int64) :
    Word.total (close view size) = Word.total (explicit view) * size.toInt := by
  have count : view.count openAxis = 1 := by
    have := List.count_pos_iff.2 mem
    omega
  rw [total_close, count, pow_one]

theorem completes_close (view : List Int64) (size : Int64) : Completes view (close view size) := by
  induction view with
  | nil => exact .nil
  | cons v view ih => exact .cons (fun hne => if_neg hne) ih

theorem Completes.exists_eq_close {view sizes : List Int64} (h : Completes view sizes)
    (count_le : view.count openAxis ≤ 1) : ∃ size, sizes = close view size := by
  induction h with
  | nil => exact ⟨1, rfl⟩
  | @cons v s view sizes same _ ih =>
    by_cases hv : v = openAxis
    · subst hv
      have closed := notMem_of_count_cons_le count_le
      obtain ⟨size, rfl⟩ := ih (by simp [List.count_eq_zero_of_not_mem closed])
      refine ⟨s, ?_⟩
      rw [close_eq_self closed]
      simpa [close] using (close_eq_self closed s).symm
    · obtain ⟨size, rfl⟩ := ih (by simpa [hv] using count_le)
      exact ⟨size, by simp [close, same hv, hv]⟩

theorem value_infer_of_none {sizes view : List Int64} {seen : Option Scan}
    (h : scan 0 ⟨none, 1⟩ view = .ok seen) (missing : seen = none ∨ Word.product? sizes = none) :
    (infer sizes view).run.value = .ok none := by
  rw [infer, h]
  obtain rfl | overflow := missing
  · rfl
  · cases seen <;> simp [overflow, Attempt.ofExcept]

theorem value_infer_of_error {view : List Int64} {f : Fault} (h : scan 0 ⟨none, 1⟩ view = .error f)
    (sizes : List Int64) : (infer sizes view).run.value = .error f := by
  rw [infer, h]
  rfl

theorem value_infer_of_some {sizes view : List Int64} {found : Scan} {elements : Int64}
    (h : scan 0 ⟨none, 1⟩ view = .ok (some found)) (count : Word.product? sizes = some elements) :
    (infer sizes view).run.value = .ok (if elements % found.elements = 0 then
      some (fill view found.inferred (elements / found.elements)) else none) := by
  rw [infer, h, count]
  by_cases hr : elements % found.elements = 0 <;> simp [hr, Attempt.ofExcept]

theorem Requested.value_infer {sizes view : List Int64} (h : Requested view) {divisor elements : Int64}
    (hd : Word.product? (explicit view) = some divisor) (he : Word.product? sizes = some elements) :
    (infer sizes view).run.value = .ok (if Word.total (explicit view) ∣ Word.total sizes then
      some (close view (elements / divisor)) else none) := by
  have found : scan 0 ⟨none, 1⟩ view = .ok (some ⟨view.idxOf? openAxis, divisor⟩) := by
    rw [scan_of_requested h, hd]
    rfl
  rw [value_infer_of_some found he, fill_idxOf? h.count_le]
  simp only [Word.mod_eq_zero_iff, (Word.product?_eq_some_iff.1 hd).1, (Word.product?_eq_some_iff.1 he).1]

theorem value_infer_of_pos {sizes view : List Int64} (pos : ∀ v ∈ view, 1 ≤ v)
    (fits : Word.Fits (Word.total view)) (prefixes : Word.PrefixesFit sizes)
    (dvd : Word.total view ∣ Word.total sizes) : (infer sizes view).run.value = .ok (some view) := by
  have closed := openAxis_notMem_of_pos pos
  have all := explicit_eq_self closed
  obtain ⟨elements, he, _⟩ := prefixes.exists_product?
  obtain ⟨divisor, hd, _⟩ := ((Word.prefixesFit_iff_of_pos pos).2 fits).exists_product?
  rw [← all] at hd
  rw [(requested_of_pos pos).value_infer hd he, all, if_pos dvd, close_eq_self closed]

theorem Requested.resolves {sizes view : List Int64} (h : Requested view) {size : Int64}
    (count : Word.total (explicit view) * size.toInt = Word.total sizes) :
    Resolves sizes view (close view size) where
  eq_of_closed closed := close_eq_self closed size
  completes := completes_close view size
  total_eq mem := by rw [total_close_of_mem h.count_le mem, count]
  unique mem other completes same := by
    obtain ⟨size', rfl⟩ := completes.exists_eq_close h.count_le
    rw [total_close_of_mem h.count_le mem, ← count] at same
    have pos := Word.one_le_total h.one_le_explicit
    rw [Int64.toInt_inj.1 (Int.eq_of_mul_eq_mul_left (by omega) same)]

theorem Requested.one_le_close {view : List Int64} (h : Requested view) {size : Int64} (hs : 1 ≤ size) :
    ∀ v ∈ close view size, 1 ≤ v := by
  intro v hv
  obtain ⟨u, hu, rfl⟩ := List.mem_map.1 hv
  split
  · exact hs
  case isFalse hne => exact (h.pos u hu).resolve_left hne

theorem Requested.value_infer_of_unfit {sizes view : List Int64} (h : Requested view)
    (unfit : ¬(Word.Fits (Word.total (explicit view)) ∧ Word.PrefixesFit sizes)) :
    (infer sizes view).run.value = .ok none := by
  apply value_infer_of_none (scan_of_requested h)
  rw [← Word.prefixesFit_iff_of_pos h.one_le_explicit, not_and_or] at unfit
  obtain wide | wide := unfit
  · left
    rw [Word.product?_eq_none_iff.2 wide]
    rfl
  · right
    exact Word.product?_eq_none_iff.2 wide

theorem Requested.value_infer_close {sizes view : List Int64} (h : Requested view) {size : Int64}
    (fits : Word.Fits (Word.total (explicit view))) (prefixes : Word.PrefixesFit sizes)
    (count : Word.total (explicit view) * size.toInt = Word.total sizes) (nonempty : 0 < Word.total sizes) :
    (infer sizes (close view size)).run.value = .ok (some (close view size)) := by
  have pos : 0 < Word.total (explicit view) := Word.one_le_total h.one_le_explicit
  have large : 0 < size.toInt := (mul_pos_iff_of_pos_left pos).1 (count ▸ nonempty)
  have positive := h.one_le_close (Int64.le_iff_toInt_le.2 large)
  by_cases mem : openAxis ∈ view
  · have same := (h.resolves count).total_eq mem
    exact value_infer_of_pos positive (same ▸ prefixes.fits) prefixes (same ▸ dvd_rfl)
  · rw [close_eq_self mem] at positive ⊢
    rw [explicit_eq_self mem] at fits count
    exact value_infer_of_pos positive fits prefixes ⟨_, count.symm⟩

theorem Requested.value_infer_of_completes {sizes view resolved : List Int64} (h : Requested view)
    (completes : Completes view resolved) (pos : ∀ v ∈ resolved, 1 ≤ v) (prefixes : Word.PrefixesFit sizes)
    (count : Word.total resolved = Word.total sizes) : (infer sizes view).run.value = .ok (some resolved) := by
  have nonempty : 1 ≤ Word.total sizes := count ▸ Word.one_le_total pos
  obtain ⟨size, rfl⟩ := completes.exists_eq_close h.count_le
  by_cases mem : openAxis ∈ view
  · rw [total_close_of_mem h.count_le mem] at count
    have positive := Word.one_le_total h.one_le_explicit
    have large : 0 < size.toInt := (mul_pos_iff_of_pos_left positive).1 (count ▸ nonempty)
    have fits : Word.Fits (Word.total (explicit view)) := by
      obtain ⟨_, upper⟩ := prefixes.fits
      have le : Word.total (explicit view) ≤ Word.total sizes := count ▸ le_mul_of_one_le_right (by omega) large
      exact ⟨by omega, by omega⟩
    obtain ⟨elements, he, elements_eq⟩ := prefixes.exists_product?
    obtain ⟨divisor, hd, divisor_eq⟩ := ((Word.prefixesFit_iff_of_pos h.one_le_explicit).2 fits).exists_product?
    have quotient : elements / divisor = size := by
      rw [← Int64.toInt_inj, Word.toInt_div_of_pos (divisor_eq ▸ positive), elements_eq, divisor_eq, ← count]
      exact Int.mul_tdiv_cancel_left _ (by omega)
    rw [h.value_infer hd he, if_pos ⟨_, count.symm⟩, quotient]
  · rw [close_eq_self mem] at pos count ⊢
    exact value_infer_of_pos pos (count ▸ prefixes.fits) prefixes (count ▸ dvd_rfl)

/-- No division by zero and no overflow: the remainder and the quotient of the words are those of the counts. -/
theorem Requested.exact_division {sizes view : List Int64} (h : Requested view) {found : Scan}
    {elements : Int64} (hf : scan 0 ⟨none, 1⟩ view = .ok (some found))
    (he : Word.product? sizes = some elements) :
    1 ≤ found.elements.toInt ∧
      (elements % found.elements).toInt = (Word.total sizes).tmod (Word.total (explicit view)) ∧
      (elements / found.elements).toInt = (Word.total sizes).tdiv (Word.total (explicit view)) := by
  rw [scan_of_requested h, Except.ok.injEq, Option.map_eq_some_iff] at hf
  obtain ⟨divisor, hd, rfl⟩ := hf
  have value := (Word.product?_eq_some_iff.1 hd).1
  have pos : 1 ≤ divisor.toInt := value ▸ Word.one_le_total h.one_le_explicit
  rw [Int64.toInt_mod, Word.toInt_div_of_pos pos, value, (Word.product?_eq_some_iff.1 he).1]
  exact ⟨value ▸ pos, rfl, rfl⟩

theorem Requested.infer_exact {view : List Int64} (h : Requested view) (sizes : List Int64) :
    (¬(Word.Fits (Word.total (explicit view)) ∧ Word.PrefixesFit sizes) →
      (infer sizes view).run.value = .ok none) ∧
    (Word.Fits (Word.total (explicit view)) → Word.PrefixesFit sizes →
      (¬Word.total (explicit view) ∣ Word.total sizes → (infer sizes view).run.value = .ok none) ∧
      (Word.total (explicit view) ∣ Word.total sizes →
        ∃ resolved, (infer sizes view).run.value = .ok (some resolved) ∧ Resolves sizes view resolved ∧
          (0 < Word.total sizes → (infer sizes resolved).run.value = .ok (some resolved)))) ∧
    ∀ found elements, scan 0 ⟨none, 1⟩ view = .ok (some found) → Word.product? sizes = some elements →
      1 ≤ found.elements.toInt ∧
        (elements % found.elements).toInt = (Word.total sizes).tmod (Word.total (explicit view)) ∧
        (elements / found.elements).toInt = (Word.total sizes).tdiv (Word.total (explicit view)) := by
  refine ⟨h.value_infer_of_unfit, fun fits prefixes => ?_, fun found elements => h.exact_division⟩
  obtain ⟨divisor, hd, divisor_eq⟩ :=
    ((Word.prefixesFit_iff_of_pos h.one_le_explicit).2 fits).exists_product?
  obtain ⟨elements, he, elements_eq⟩ := prefixes.exists_product?
  have value := h.value_infer hd he
  refine ⟨fun ndvd => by rw [value, if_neg ndvd], fun dvd => ?_⟩
  have pos : 1 ≤ divisor.toInt := divisor_eq ▸ Word.one_le_total h.one_le_explicit
  have count : Word.total (explicit view) * (elements / divisor).toInt = Word.total sizes := by
    rw [Word.toInt_div_of_pos pos, divisor_eq, elements_eq, Int.mul_tdiv_cancel' dvd]
  exact ⟨close view (elements / divisor), by rw [value, if_pos dvd], h.resolves count,
    h.value_infer_close fits prefixes count⟩

theorem infer_exact_lowest :
    let sizes : List Int64 := [-4611686018427387904, 2]
    let view : List Int64 := [-1, 4611686018427387904]
    Requested view ∧ Word.total sizes = -2 ^ 63 ∧
      ∃ resolved, (infer sizes view).run.value = .ok (some resolved) ∧ Resolves sizes view resolved := by
  intro sizes view
  have requested : Requested view := ⟨by decide, by simp [view, openAxis]⟩
  have prefixes : Word.PrefixesFit sizes := (Word.product?_eq_some_iff (a := Int64.minValue)).1 (by decide) |>.2
  obtain ⟨resolved, value, resolves, _⟩ :=
    (requested.infer_exact sizes).2.1 (by decide) prefixes |>.2 (by decide)
  exact ⟨requested, by decide, resolved, value, resolves⟩

end FusionGuards.View
