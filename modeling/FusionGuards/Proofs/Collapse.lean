import FusionGuards.Proofs.Layout
import FusionGuards.Proofs.Recording
import Mathlib.Data.List.Permutation
import Mathlib.Tactic.Linarith

namespace FusionGuards

structure Signature.FullyContiguous (s : Signature) {rank : Nat} (order : Equiv.Perm (Fin rank)) : Prop where
  rank_eq : s.rank = some rank
  slots_eq : ∀ p : Fin rank, s.slots[p.val]? = some ⟨some (order p), true⟩

namespace Signature.FullyContiguous

variable {s : Signature} {t : Tensor} {gradMode : Bool} {order : Equiv.Perm (Fin t.ndim)}

theorem axis_fits (h : s.FullyContiguous order) (fits : s.Fits t gradMode) (p : Fin t.ndim) :
    ∃ a, t.axis? (order p) = some a ∧ a.Follows (s.reference? t p) ∧
      a.CollapsesWith (s.reference? t p) ∧
      s.reference? t (p + 1) =
        if a.stride ≠ 0 ∧ (s.reference? t p = none ∨ a.size ≠ 1) then some a else s.reference? t p := by
  have hslot := h.slots_eq p
  obtain ⟨a, ha, follows, collapses⟩ := fits.slots p p.is_lt _ hslot (order p) rfl
  exact ⟨a, ha, follows, collapses rfl, reference?_succ hslot ha⟩

end Signature.FullyContiguous

theorem Axis.Follows.le_one {a e : Axis} (follows : a.Follows (some e)) (unit : a.stride = 1) :
    e.stride.toInt ≤ 1 := by
  obtain h0 | hle := follows e rfl
  · rw [unit] at h0
    cases h0
  · rw [unit, Int64.le_iff_toInt_le] at hle
    exact hle

theorem Axis.CollapsesWith.stride_eq {a e : Axis} (collapses : a.CollapsesWith (some e))
    (follows : a.Follows (some e)) (hsize : a.size ≠ 1) (hpos : 1 ≤ e.stride.toInt) :
    e.stride.toInt = 1 ∧ a.stride.toInt = 1 ∨ a.stride.toInt = e.stride.toInt * e.size.toInt := by
  obtain h | h | ⟨e', he', h⟩ := collapses
  · exact absurd h hsize
  · left
    refine ⟨le_antisymm (follows.le_one h) hpos, ?_⟩
    rw [h]
    rfl
  · right
    cases he'
    exact h.symm

theorem Signature.FullyContiguous.ndim_eq {s : Signature} {rank : Nat} {order : Equiv.Perm (Fin rank)}
    {t : Tensor} {gradMode : Bool} (h : s.FullyContiguous order) (fits : s.Fits t gradMode) :
    rank = t.ndim :=
  Option.some.inj (h.rank_eq.symm.trans fits.rank)

section Wide

variable {s : Signature} {t : Tensor} {gradMode : Bool} {order : Equiv.Perm (Fin t.ndim)}
  (h : s.FullyContiguous order) (fits : s.Fits t gradMode) (wide : ∀ dim < t.ndim, 2 ≤ t.size dim)

include h fits wide

theorem first_stride (hp : 0 < t.ndim) : t.stride (order ⟨0, hp⟩) = 1 := by
  obtain ⟨a, ha, _, collapses, _⟩ := h.axis_fits fits ⟨0, hp⟩
  rw [Tensor.stride_eq_one_iff ha]
  obtain one | one | ⟨e, he, _⟩ := collapses
  · exact absurd one (Tensor.size_ne_one ha (wide _ (order ⟨0, hp⟩).is_lt))
  · exact one
  · simp at he

theorem reference?_of_wide {p : Fin t.ndim} (pos : 1 ≤ t.stride (order p)) :
    s.reference? t (p + 1) = t.axis? (order p) := by
  obtain ⟨a, ha, _, _, next⟩ := h.axis_fits fits p
  rw [next, ha, if_pos]
  refine ⟨?_, Or.inr (Tensor.size_ne_one ha (wide _ (order p).is_lt))⟩
  rw [ne_eq, ← Tensor.stride_eq_zero_iff ha]
  omega

theorem next_stride {p q : Fin t.ndim} (hq : q.val + 1 = p) (pos : 1 ≤ t.stride (order q)) :
    t.stride (order q) = 1 ∧ t.stride (order p) = 1 ∨
      t.stride (order p) = t.stride (order q) * t.size (order q) := by
  obtain ⟨a, ha, follows, collapses, _⟩ := h.axis_fits fits p
  obtain ⟨e, he⟩ := Tensor.exists_axis? (order q).is_lt
  rw [← hq, reference?_of_wide h fits wide pos, he] at follows collapses
  rw [Tensor.stride_eq he] at pos
  rw [Tensor.stride_eq ha, Tensor.stride_eq he, Tensor.size_eq he]
  exact collapses.stride_eq follows (Tensor.size_ne_one ha (wide _ (order p).is_lt)) pos

theorem stride_pos (p : Nat) (hp : p < t.ndim) : 1 ≤ t.stride (order ⟨p, hp⟩) := by
  induction p with
  | zero => exact (first_stride h fits wide hp).ge
  | succ p ih =>
    have pos := ih (Nat.lt_of_succ_lt hp)
    obtain ⟨_, one⟩ | span := next_stride (p := ⟨p + 1, hp⟩) h fits wide rfl pos
    · exact one.ge
    · rw [span]
      have := wide _ (order ⟨p, Nat.lt_of_succ_lt hp⟩).is_lt
      nlinarith

end Wide

theorem exists_leading_ones {n : Nat} {f g : Fin n → Int} (hn : 0 < n) (first : f ⟨0, hn⟩ = 1)
    (pos : ∀ p, 1 ≤ f p) (large : ∀ p, 2 ≤ g p)
    (next : ∀ p q : Fin n, q.val + 1 = p → f q = 1 ∧ f p = 1 ∨ f p = f q * g q) :
    ∃ k, 1 ≤ k ∧ k ≤ n ∧ (∀ p : Fin n, p < k → f p = 1) ∧
      ∀ p q : Fin n, q.val + 1 = p → k ≤ p → f p = f q * g q := by
  classical
  have ends : ∃ k, ∀ hk : k < n, f ⟨k, hk⟩ ≠ 1 := ⟨n, fun hk => absurd hk (Nat.lt_irrefl n)⟩
  have above (p : Nat) (hp : Nat.find ends ≤ p) : ∀ hpn : p < n, f ⟨p, hpn⟩ ≠ 1 := by
    induction p, hp using Nat.le_induction with
    | base => exact Nat.find_spec ends
    | succ p _ ih =>
      intro hpn one
      obtain ⟨before, _⟩ | span := next ⟨p + 1, hpn⟩ ⟨p, Nat.lt_of_succ_lt hpn⟩ rfl
      · exact ih _ before
      · nlinarith [pos ⟨p, Nat.lt_of_succ_lt hpn⟩, large ⟨p, Nat.lt_of_succ_lt hpn⟩]
  refine ⟨Nat.find ends, ?_, Nat.find_min' ends fun hk => absurd hk (Nat.lt_irrefl n), ?_, ?_⟩
  · rw [Nat.succ_le_iff, Nat.find_pos]
    intro h
    exact h hn first
  · intro p hp
    by_contra one
    exact Nat.find_min ends hp fun _ => one
  · intro p q hq hp
    obtain ⟨_, one⟩ | span := next p q hq
    · exact absurd one (above p hp p.is_lt)
    · exact span

/-- A tensor without sizes below two that is accepted as fully contiguous has strides that are ones and then exact
products. It is dense if there is a single one, and otherwise elements of it share their place. -/
theorem Signature.FullyContiguous.exists_risesFrom {s : Signature} {rank : Nat} {order : Equiv.Perm (Fin rank)}
    {t : Tensor} {gradMode : Bool} (h : s.FullyContiguous order) (hrank : 0 < rank)
    (wide : ∀ dim < t.ndim, 2 ≤ t.size dim) (accepted : (s.complies t gradMode).run.value = .ok true) :
    ∃ k, t.RisesFrom order k ∧ (Function.Injective t.offset ↔ k = 1) ∧
      (k = 1 → Set.range t.offset = Set.Ico 0 (t.numel : Int)) := by
  have fits := (value_complies_eq_true_iff.1 accepted).1
  obtain rfl := h.ndim_eq fits
  have pos (p : Fin t.ndim) : 1 ≤ t.stride (order p) := stride_pos h fits wide p p.is_lt
  have large (p : Fin t.ndim) : 2 ≤ (t.size (order p) : Int) := by
    exact_mod_cast wide _ (order p).is_lt
  obtain ⟨k, hk, hkn, ones, spans⟩ := exists_leading_ones hrank (first_stride h fits wide hrank) pos large
    fun p q hq => next_stride h fits wide hq (pos q)
  have rises : t.RisesFrom order k := ⟨hk, hkn, ones, spans⟩
  refine ⟨k, rises, ⟨?_, ?_⟩, ?_⟩
  · intro injective
    by_contra hk1
    have second : 1 < t.ndim := by omega
    have same : t.stride (order ⟨0, hrank⟩) = t.stride (order ⟨1, second⟩) := by
      rw [ones ⟨0, hrank⟩ (by simp; omega), ones ⟨1, second⟩ (by simp; omega)]
    refine Tensor.not_injective_offset wide ?_ same injective
    simp
  · rintro rfl
    exact rises.dense.injective_offset
  · rintro rfl
    exact rises.dense.range_offset

theorem exists_risesFrom_overlapping :
    let s : Signature := { rank := some 2, sizes := [none, none], slots := [⟨some 1, true⟩, ⟨some 0, true⟩] }
    let t : Tensor := ⟨[2, 3], [1, 1], .float, .cpu, false, rfl, by simp⟩
    let order : Equiv.Perm (Fin 2) := Equiv.swap 0 1
    s.FullyContiguous order ∧ 0 < 2 ∧ (∀ dim < t.ndim, 2 ≤ t.size dim) ∧
      (s.complies t true).run.value = .ok true ∧
      ∃ k, t.RisesFrom order k ∧ (Function.Injective t.offset ↔ k = 1) ∧
        (k = 1 → Set.range t.offset = Set.Ico 0 (t.numel : Int)) := by
  intro s t order
  have contiguous : s.FullyContiguous order := ⟨rfl, by decide⟩
  have wide : ∀ dim < t.ndim, 2 ≤ t.size dim := by decide
  have accepted : (s.complies t true).run.value = .ok true := by decide
  exact ⟨contiguous, by decide, wide, accepted, contiguous.exists_risesFrom (by decide) wide accepted⟩

def Tensor.Leads (t : Tensor) {rank : Nat} (order : Equiv.Perm (Fin rank)) (q : Fin rank) : Prop :=
  t.stride (order q) ≠ 0 ∧ ∀ q' < q, t.stride (order q') = 0

theorem Tensor.Leads.unique {t : Tensor} {rank : Nat} {order : Equiv.Perm (Fin rank)} {p q : Fin rank}
    (hp : t.Leads order p) (hq : t.Leads order q) : p = q := by
  obtain h | h | h := lt_trichotomy p q
  · exact absurd (hq.2 p h) hp.1
  · exact h
  · exact absurd (hp.2 q h) hq.1

section Narrow

variable {s : Signature} {t : Tensor} {gradMode : Bool} {order : Equiv.Perm (Fin t.ndim)}
  (h : s.FullyContiguous order) (fits : s.Fits t gradMode)

include h fits

theorem reference?_of_narrow (p : Nat) (hp : p ≤ t.ndim)
    (narrow : ∀ q : Fin t.ndim, q < p → t.size (order q) = 1) :
    (s.reference? t p = none ∧ ∀ q : Fin t.ndim, q < p → t.stride (order q) = 0) ∨
      ∃ q : Fin t.ndim, q < p ∧ t.Leads order q ∧ s.reference? t p = t.axis? (order q) := by
  induction p with
  | zero =>
    left
    exact ⟨s.reference?_zero t, fun q hq => absurd hq (Nat.not_lt_zero q)⟩
  | succ p ih =>
    obtain ⟨a, ha, _, _, next⟩ := h.axis_fits fits ⟨p, hp⟩
    have one : a.size = 1 := (Tensor.size_eq_one_iff ha).1 (narrow ⟨p, hp⟩ (Nat.lt_succ_self p))
    obtain ⟨none, zeros⟩ | ⟨q, hq, leads, reference⟩ := ih (Nat.le_of_succ_le hp)
        fun q hq => narrow q (Nat.lt_succ_of_lt hq)
    · by_cases h0 : a.stride = 0
      · left
        refine ⟨by simp [next, none, h0], ?_⟩
        intro q hq
        obtain hq | hq := Nat.lt_succ_iff_lt_or_eq.1 hq
        · exact zeros q hq
        · obtain rfl : q = ⟨p, hp⟩ := Fin.ext hq
          exact (Tensor.stride_eq_zero_iff ha).2 h0
      · right
        refine ⟨⟨p, hp⟩, Nat.lt_succ_self p, ⟨?_, zeros⟩, by simp [next, none, h0, ha]⟩
        rwa [ne_eq, Tensor.stride_eq_zero_iff ha]
    · right
      -- An axis of size one takes no reference's place.
      obtain ⟨e, he⟩ := Tensor.exists_axis? (order q).is_lt
      refine ⟨q, Nat.lt_succ_of_lt hq, leads, ?_⟩
      simp [next, reference, he, one]

theorem stride_of_narrow {p : Fin t.ndim} (hp : t.size (order p) ≠ 1)
    (first : ∀ q < p, t.size (order q) = 1) :
    t.stride (order p) = 1 ∧ (∀ q < p, t.stride (order q) = 0) ∨
      ∃ q < p, t.Leads order q ∧ (t.stride (order p) = 1 ∧ t.stride (order q) ≤ 1 ∨
        t.stride (order p) = t.stride (order q)) := by
  obtain ⟨a, ha, follows, collapses, _⟩ := h.axis_fits fits p
  rw [ne_eq, Tensor.size_eq_one_iff ha] at hp
  rw [Tensor.stride_eq_one_iff ha]
  obtain ⟨none, zeros⟩ | ⟨q, hq, leads, reference⟩ := reference?_of_narrow h fits p p.is_lt.le first
  · left
    refine ⟨?_, zeros⟩
    simpa [Axis.CollapsesWith, none, hp] using collapses
  · right
    obtain ⟨e, he⟩ := Tensor.exists_axis? (order q).is_lt
    have one : e.size = 1 := (Tensor.size_eq_one_iff he).1 (first q hq)
    rw [reference, he] at follows collapses
    refine ⟨q, hq, leads, ?_⟩
    rw [Tensor.stride_eq ha, Tensor.stride_eq he]
    obtain h1 | h1 | ⟨e', he', span⟩ := collapses
    · exact absurd h1 hp
    · left
      exact ⟨h1, follows.le_one h1⟩
    · right
      cases he'
      simpa [one] using span.symm

end Narrow

/-- The first dimension not of size one has unit stride unless one of size one before it stands in as its reference,
the two then sharing a stride. They do share it if that of the stand-in is more than one. -/
theorem Signature.FullyContiguous.stride_ne_one_iff {s : Signature} {rank : Nat}
    {order : Equiv.Perm (Fin rank)} {t : Tensor} {gradMode : Bool} (h : s.FullyContiguous order)
    (accepted : (s.complies t gradMode).run.value = .ok true) {p : Fin rank}
    (hp : t.size (order p) ≠ 1) (first : ∀ q < p, t.size (order q) = 1) :
    (t.stride (order p) ≠ 1 ↔
      ∃ q < p, t.Leads order q ∧ t.stride (order q) ≠ 1 ∧ t.stride (order p) = t.stride (order q)) ∧
    ∀ q < p, t.Leads order q → 1 < t.stride (order q) → t.stride (order p) = t.stride (order q) := by
  have fits := (value_complies_eq_true_iff.1 accepted).1
  obtain rfl := h.ndim_eq fits
  obtain ⟨unit, zeros⟩ | ⟨q, hq, leads, shared⟩ := stride_of_narrow h fits hp first
  · refine ⟨⟨fun hne => absurd unit hne, ?_⟩, ?_⟩
    · intro ⟨q, hq, leads, _⟩
      exact absurd (zeros q hq) leads.1
    · intro q hq leads
      exact absurd (zeros q hq) leads.1
  · refine ⟨⟨?_, ?_⟩, ?_⟩
    · intro hne
      have same := shared.resolve_left fun narrow => hne narrow.1
      exact ⟨q, hq, leads, same ▸ hne, same⟩
    · intro ⟨q', _, _, hne, same⟩
      rwa [same]
    · intro q' _ leads' large
      obtain rfl := leads.unique leads'
      apply shared.resolve_left
      intro ⟨_, small⟩
      exact absurd small (not_le.2 large)

theorem shares_stride_with_stand_in :
    let s : Signature := { rank := some 2, sizes := [none, none], slots := [⟨some 1, true⟩, ⟨some 0, true⟩] }
    let t : Tensor := ⟨[4, 1], [6, 6], .float, .cpu, false, rfl, by simp⟩
    let order : Equiv.Perm (Fin 2) := Equiv.swap 0 1
    s.FullyContiguous order ∧ (s.complies t true).run.value = .ok true ∧ t.size (order 1) ≠ 1 ∧
      (∀ q < 1, t.size (order q) = 1) ∧ t.stride (order 1) = t.stride (order 0) := by
  intro s t order
  have contiguous : s.FullyContiguous order := ⟨rfl, by decide⟩
  have accepted : (s.complies t true).run.value = .ok true := by decide
  have long : t.size (order 1) ≠ 1 := by decide
  have first : ∀ q < 1, t.size (order q) = 1 := by decide
  refine ⟨contiguous, accepted, long, first, ?_⟩
  exact (contiguous.stride_ne_one_iff accepted long first).2 0 (by decide) ⟨by decide, by decide⟩ (by decide)

/-- Recorded from a dense tensor, a signature accepts one with gaps between its elements. -/
theorem recorded_dense_accepts_strided :
    let recorded : Tensor := ⟨[4, 1], [1, 1], .float, .cpu, false, rfl, by simp⟩
    let t : Tensor := ⟨[4, 1], [6, 6], .float, .cpu, false, rfl, by simp⟩
    let order : Equiv.Perm (Fin 2) := Equiv.swap 0 1
    Tensor.rowMajor [4, 1] .float .cpu = .ok recorded ∧ (Signature.of recorded true).FullyContiguous order ∧
      (∀ dim < t.ndim, 1 ≤ t.size dim) ∧
      ((Signature.of recorded true).complies t true).run.value = .ok true ∧ t.size (order 1) ≠ 1 ∧
      (∀ q < 1, t.size (order q) = 1) ∧ t.stride (order 1) = 6 := by
  intro recorded t order
  have signature : Signature.of recorded true =
      ⟨some 2, some .float, some .cpu, some false, [some 4, some 1], [⟨some 1, true⟩, ⟨some 0, true⟩]⟩ := by
    cbv
  rw [signature]
  exact ⟨rfl, ⟨rfl, by decide⟩, by decide, by decide, by decide, by decide, by decide⟩

end FusionGuards
