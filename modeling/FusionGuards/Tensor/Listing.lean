import FusionGuards.Tensor.Walk

/-! A size or stride is looked up only where the answer turns on it; what is looked up and not there leaves no answer.
Where both lists are long enough the steps are those of `Walk`. -/

namespace FusionGuards

structure Listing where
  sizes : List Int64
  strides : List Int64
  deriving DecidableEq, Repr

namespace Listing

def axis? (l : Listing) (dim : Nat) : Option Axis :=
  match l.sizes[dim]?, l.strides[dim]? with
  | some size, some stride => some ⟨dim, size, stride⟩
  | _, _ => none

inductive Step
  | orderHolds (dim : Nat)
  | contiguousAt (dim position : Nat)
  | advance (dim : Nat)
  deriving DecidableEq, Repr

def orderHolds? (l : Listing) (reference : Option Nat) (dim : Nat) : Option Bool :=
  match reference with
  | none => some true
  | some e => do
    let stride ← l.strides[dim]?
    let inner ← l.strides[e]?
    return stride == 0 || inner == 0 || decide (inner ≤ stride)

def contiguousAt? (l : Listing) (reference : Option Nat) (dim position : Nat) : Option Bool := do
  let size ← l.sizes[dim]?
  if size = 1 then return true
  let stride ← l.strides[dim]?
  if stride = 1 then return true
  if position = 0 then return false
  match reference with
  | none => return false
  | some e =>
    let inner ← l.strides[e]?
    let count ← l.sizes[e]?
    return Word.mul? inner count == some stride

def advance? (l : Listing) (reference : Option Nat) (dim : Nat) : Option (Option Nat) := do
  let stride ← l.strides[dim]?
  if stride = 0 then return reference
  if reference = none then return some dim
  let size ← l.sizes[dim]?
  return if size = 1 then reference else some dim

def step? (l : Listing) (reference : Option Nat) : Step → Option (Option Bool × Option Nat)
  | .orderHolds dim => (l.orderHolds? reference dim).map fun b => (some b, reference)
  | .contiguousAt dim position => (l.contiguousAt? reference dim position).map fun b => (some b, reference)
  | .advance dim => (l.advance? reference dim).map fun r => (none, r)

def steps? (l : Listing) : Option Nat → List Step → Option (List (Option Bool × Option Nat))
  | _, [] => some []
  | reference, s :: rest => do
    let (answer, reference) ← l.step? reference s
    let others ← l.steps? reference rest
    return (answer, reference) :: others

def describe : Option Nat → String
  | none => "StrideWalk \x7b inner: None \x7d"
  | some dim => "StrideWalk \x7b inner: Some(" ++ toString dim ++ ") \x7d"

def Keeps (l : Listing) (reference : Option Nat) (w : Walk) : Prop :=
  w.reference = reference.bind l.axis? ∧ w.reference.map Axis.dim = reference

theorem axis?_eq_some_iff {l : Listing} {dim : Nat} {a : Axis} :
    l.axis? dim = some a ↔
      a.dim = dim ∧ l.sizes[dim]? = some a.size ∧ l.strides[dim]? = some a.stride := by
  obtain ⟨d, size, stride⟩ := a
  unfold axis?
  split
  case h_1 h₁ h₂ => simp [h₁, h₂, eq_comm]
  case h_2 h =>
    simp only [reduceCtorEq, false_iff]
    intro ⟨_, h₁, h₂⟩
    exact h _ _ h₁ h₂

theorem keeps_none (l : Listing) : l.Keeps none {} := ⟨rfl, rfl⟩

theorem Keeps.axis? {l : Listing} {w : Walk} {e : Nat} (h : l.Keeps (some e) w) :
    ∃ a, w.reference = some a ∧ l.axis? e = some a := by
  obtain ⟨h₁, h₂⟩ := h
  cases hw : w.reference with
  | none => simp [hw] at h₂
  | some a => exact ⟨a, rfl, by rw [← hw, h₁]; rfl⟩

theorem Keeps.advance {l : Listing} {reference : Option Nat} {w : Walk} {dim : Nat} {a : Axis}
    (h : l.Keeps reference w) (ha : l.axis? dim = some a) :
    ∃ next, l.advance? reference dim = some next ∧ l.Keeps next (w.advance a) := by
  obtain ⟨hd, hs, ht⟩ := axis?_eq_some_iff.1 ha
  have taken : l.Keeps (some dim) ⟨some a⟩ := ⟨by simp [ha], by simp [hd]⟩
  by_cases h0 : a.stride = 0
  · exact ⟨reference, by simp [advance?, ht, h0], by simpa [Walk.advance, h0] using h⟩
  cases reference with
  | none =>
    have hw : w.reference = none := h.1
    exact ⟨some dim, by simp [advance?, ht, h0], by simpa [Walk.advance, h0, hw] using taken⟩
  | some e =>
    obtain ⟨b, hb, _⟩ := h.axis?
    by_cases h1 : a.size = 1
    · exact ⟨some e, by simp [advance?, ht, hs, h1], by simpa [Walk.advance, h1, hb] using h⟩
    · exact ⟨some dim, by simp [advance?, ht, hs, h0, h1], by simpa [Walk.advance, h0, h1] using taken⟩

theorem Keeps.orderHolds {l : Listing} {reference : Option Nat} {w : Walk} {dim : Nat} {a : Axis}
    (h : l.Keeps reference w) (ha : l.axis? dim = some a) :
    l.orderHolds? reference dim = some (w.orderHolds a) := by
  obtain ⟨_, _, ht⟩ := axis?_eq_some_iff.1 ha
  cases reference with
  | none =>
    have hw : w.reference = none := h.1
    simp [orderHolds?, Walk.orderHolds, hw]
  | some e =>
    obtain ⟨b, hb, he⟩ := h.axis?
    obtain ⟨_, _, hbt⟩ := axis?_eq_some_iff.1 he
    simp [orderHolds?, Walk.orderHolds, hb, ht, hbt]

theorem Keeps.contiguousAt {l : Listing} {reference : Option Nat} {w : Walk} {dim position : Nat}
    {a : Axis} (h : l.Keeps reference w) (ha : l.axis? dim = some a) :
    l.contiguousAt? reference dim position = some (w.contiguousAt position a) := by
  obtain ⟨_, hs, ht⟩ := axis?_eq_some_iff.1 ha
  by_cases h1 : a.size = 1
  · simp [contiguousAt?, Walk.contiguousAt, hs, h1]
  by_cases h2 : a.stride = 1
  · simp [contiguousAt?, Walk.contiguousAt, hs, ht, h1, h2]
  by_cases h3 : position = 0
  · simp [contiguousAt?, Walk.contiguousAt, hs, ht, h1, h2, h3]
  cases reference with
  | none =>
    have hw : w.reference = none := h.1
    simp [contiguousAt?, Walk.contiguousAt, hs, ht, h1, h2, h3, hw]
  | some e =>
    obtain ⟨b, hb, he⟩ := h.axis?
    obtain ⟨_, hbs, hbt⟩ := axis?_eq_some_iff.1 he
    simp [contiguousAt?, Walk.contiguousAt, hs, ht, h1, h2, h3, hb, hbs, hbt]

end Listing

end FusionGuards
