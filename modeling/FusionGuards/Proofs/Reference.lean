import FusionGuards.Proofs.Walk
import FusionGuards.Tensor.Listing

namespace FusionGuards

def Axis.replaces (a : Axis) : Bool := a.stride != 0 && a.size != 1

namespace Walk

variable {axes others : List Axis} {a e : Axis}

def InOrder (axes : List Axis) : Prop := ∀ i, ∀ a ∈ axes[i]?, (after (axes.take i)).orderHolds a = true

theorem InOrder.init (h : InOrder (axes ++ [a])) : InOrder axes := by
  intro i b hb
  have inside : i < axes.length := (List.getElem?_eq_some_iff.1 hb).1
  have ordered := h i b (by rwa [List.getElem?_append_left inside])
  rwa [List.take_append_of_le_length (Nat.le_of_lt inside)] at ordered

theorem InOrder.last (h : InOrder (axes ++ [a])) : (after axes).orderHolds a = true := by
  have ordered := h axes.length a (by simp)
  rwa [List.take_left] at ordered

theorem referenceOf_of_filter_eq (h : axes.filter Axis.replaces = others ++ [e]) : referenceOf axes = some e := by
  have last : axes.findRev? Axis.replaces = some e := by
    rw [List.findRev?_eq_find?_reverse, ← List.getLast?_filter, h, List.getLast?_concat]
  exact Option.or_eq_some_iff.2 (.inl last)

theorem InOrder.pairwise (h : InOrder axes) :
    (axes.filter Axis.replaces).Pairwise fun a b => a.stride ≤ b.stride := by
  induction axes using List.reverseRecOn with
  | nil => exact .nil
  | append_singleton axes a ih =>
    have sorted := ih h.init
    rw [List.filter_append]
    by_cases replaces : a.replaces = true
    · rw [List.filter_cons_of_pos replaces, List.filter_nil]
      refine List.pairwise_append.2 ⟨sorted, List.pairwise_singleton _ a, fun b hb c hc => ?_⟩
      obtain rfl := List.mem_singleton.1 hc
      obtain none | ⟨others, e, split⟩ := List.eq_nil_or_concat (axes.filter Axis.replaces)
      · simp [none] at hb
      · -- The last of those that took the reference's place still is the reference.
        rw [List.concat_eq_append] at split
        have follows := orderHolds_after.1 h.last
        rw [referenceOf_of_filter_eq split] at follows
        have nonzero : c.stride ≠ 0 := (by simpa [Axis.replaces] using replaces : c.stride ≠ 0 ∧ c.size ≠ 1).1
        have above : e.stride ≤ c.stride := (follows e rfl).resolve_left nonzero
        rw [split, List.pairwise_append] at sorted
        rw [split] at hb
        obtain hb | hb := List.mem_append.1 hb
        · exact Int64.le_trans (sorted.2.2 b hb e (by simp)) above
        · rwa [List.mem_singleton.1 hb]
    · rw [List.filter_cons_of_neg replaces, List.filter_nil, List.append_nil]
      exact sorted

end Walk

namespace Listing

variable {l : Listing} {dim : Nat} {dims : List Nat}

def Covers (l : Listing) (dim : Nat) : Prop := dim < l.sizes.length ∧ dim < l.strides.length

instance : DecidablePred l.Covers := fun _ => inferInstanceAs (Decidable (_ ∧ _))

def axis (l : Listing) (dim : Nat) : Axis := ⟨dim, l.sizes.getD dim 0, l.strides.getD dim 0⟩

theorem Covers.axis?_eq (h : l.Covers dim) : l.axis? dim = some (l.axis dim) := by
  simp [axis?_eq_some_iff, axis, h.1, h.2]

def visit? (l : Listing) (dims : List Nat) : Option (Option Nat) := dims.foldlM l.advance? none

theorem exists_keeps (covered : ∀ d ∈ dims, l.Covers d) :
    ∃ reference, l.visit? dims = some reference ∧ l.Keeps reference (.after (dims.map l.axis)) := by
  induction dims using List.reverseRecOn with
  | nil => exact ⟨none, rfl, l.keeps_none⟩
  | append_singleton dims d ih =>
    obtain ⟨before, visited, keeps⟩ := ih fun e he => covered e (List.mem_append_left _ he)
    obtain ⟨next, advanced, kept⟩ := keeps.advance (covered d (by simp)).axis?_eq
    refine ⟨next, ?_, by simpa using kept⟩
    rw [visit?] at visited
    simpa [visit?, List.foldlM_append, visited] using advanced

def referenceOf (l : Listing) (dims : List Nat) : Option Nat :=
  (dims.findRev? fun d => (l.axis d).stride != 0 && (l.axis d).size != 1).or
    (dims.find? fun d => (l.axis d).stride != 0)

theorem referenceOf_map_axis (l : Listing) (dims : List Nat) :
    Walk.referenceOf (dims.map l.axis) = (l.referenceOf dims).map l.axis := by
  simp only [Walk.referenceOf, referenceOf, List.findRev?_eq_find?_reverse, ← List.map_reverse, List.find?_map,
    Option.map_or]
  rfl

theorem Keeps.eq_referenceOf {reference : Option Nat} (keeps : l.Keeps reference (.after (dims.map l.axis))) :
    reference = l.referenceOf dims := by
  rw [← keeps.2, Walk.reference_after, referenceOf_map_axis, Option.map_map]
  exact Option.map_id'

def InOrder (l : Listing) (dims : List Nat) : Prop :=
  ∀ i, ∀ d ∈ dims[i]?, (l.visit? (dims.take i)).bind (l.orderHolds? · d) = some true

theorem InOrder.map_axis (h : l.InOrder dims) (covered : ∀ d ∈ dims, l.Covers d) : Walk.InOrder (dims.map l.axis) := by
  intro i a ha
  rw [List.getElem?_map, Option.mem_def, Option.map_eq_some_iff] at ha
  obtain ⟨d, hd, rfl⟩ := ha
  obtain ⟨reference, visited, keeps⟩ := exists_keeps fun e he => covered e (List.mem_of_mem_take (i := i) he)
  have answer := h i d hd
  rw [visited, Option.bind_some, keeps.orderHolds (covered d (List.mem_of_getElem? hd)).axis?_eq] at answer
  rw [← List.map_take]
  exact Option.some.inj answer

/-- The reference of a walk is told by its history, and the strides that replaced it do not decrease along a walk in
order. -/
theorem visit?_reference (l : Listing) (dims : List Nat) (covered : ∀ d ∈ dims, l.Covers d) :
    l.visit? dims = some (l.referenceOf dims) ∧
    (Walk.after (dims.map l.axis)).reference = (l.referenceOf dims).map l.axis ∧
    (∀ e ∈ l.referenceOf dims, (l.axis e).stride ≠ 0) ∧
    (∀ d, l.Covers d → ∃ b, l.orderHolds? (l.referenceOf dims) d = some b ∧
      (b = true ↔ ∀ e ∈ l.referenceOf dims, (l.axis d).stride = 0 ∨ (l.axis e).stride ≤ (l.axis d).stride)) ∧
    (l.InOrder dims → (dims.filter fun d => (l.axis d).stride != 0 && (l.axis d).size != 1).Pairwise fun d e =>
      (l.axis d).stride ≤ (l.axis e).stride) := by
  obtain ⟨_, visited, keeps⟩ := exists_keeps covered
  obtain rfl := keeps.eq_referenceOf
  have same := referenceOf_map_axis l dims
  refine ⟨visited, ?_, fun e he => ?_, fun d hd => ⟨_, keeps.orderHolds hd.axis?_eq, ?_⟩, fun ordered => ?_⟩
  · rw [Walk.reference_after, same]
  · have reference : l.axis e ∈ Walk.referenceOf (dims.map l.axis) := by
      rw [same]
      exact Option.mem_map_of_mem l.axis he
    exact (Walk.mem_of_mem_referenceOf reference).2
  · rw [Walk.orderHolds_after, same]
    simp [Axis.Follows]
  · have sorted := (ordered.map_axis covered).pairwise
    rwa [List.filter_map, List.pairwise_map] at sorted

theorem visit?_reference_standing_in :
    let l : Listing := ⟨[4, 1, 3, 5], [3, 1, 1, 0]⟩
    let dims := [3, 1, 2, 3, 1, 0, 0]
    (∀ d ∈ dims, l.Covers d) ∧ l.InOrder dims ∧ l.visit? (dims.take 2) = some (some 1) ∧
      l.visit? dims = some (some 0) ∧ l.orderHolds? (some 0) 1 = some false ∧
      ((dims.filter fun d => (l.axis d).stride != 0 && (l.axis d).size != 1).Pairwise fun d e =>
        (l.axis d).stride ≤ (l.axis e).stride) := by
  intro l dims
  have covered : ∀ d ∈ dims, l.Covers d := by decide
  have answers : ∀ i < dims.length, ∀ d ∈ dims[i]?,
      (l.visit? (dims.take i)).bind (l.orderHolds? · d) = some true := by decide
  have ordered : l.InOrder dims := fun i d hd => answers i (List.getElem?_eq_some_iff.1 hd).1 d hd
  obtain ⟨visited, -, -, -, sorted⟩ := visit?_reference l dims covered
  exact ⟨covered, ordered, by decide, visited.trans (by decide), by decide, sorted ordered⟩

end Listing

end FusionGuards
