import FusionGuards.Gradient
import Mathlib.Logic.Function.Basic

/-! The oldest of several suspensions alone has found the mode as it was, and puts it back while the others still
stand. -/

namespace FusionGuards.Gradient

inductive Operation
  | set (enabled : Bool)
  | suspend
  | lift (index : Nat)
  /-- Hands a suspension over to a thread that may lift it later. -/
  | send (index receiver : Nat)
  deriving DecidableEq

def release (g : Gradient) (index : Nat) : Gradient := { g with suspensions := g.suspensions.eraseIdx index }

def adopt (g : Gradient) (found : Bool) : Gradient := { g with suspensions := g.suspensions ++ [found] }

abbrev Threads := Nat → Gradient

namespace Threads

def perform (s : Threads) (thread : Nat) : Operation → Threads
  | .set enabled => Function.update s thread ((s thread).set enabled)
  | .suspend => Function.update s thread (s thread).suspend
  | .lift index => Function.update s thread ((s thread).lift index)
  | .send index receiver =>
    match (s thread).suspensions[index]? with
    | none => s
    | some found =>
      let sent := Function.update s thread ((s thread).release index)
      Function.update sent receiver ((sent receiver).adopt found)

def after (s : Threads) (run : List (Nat × Operation)) : Threads := run.foldl (fun s o => s.perform o.1 o.2) s

@[simp] theorem after_nil (s : Threads) : s.after [] = s := rfl

@[simp] theorem after_cons (s : Threads) (o : Nat × Operation) (run : List (Nat × Operation)) :
    s.after (o :: run) = (s.perform o.1 o.2).after run := rfl

theorem enabled_perform_of_ne {s : Threads} {thread θ : Nat} (other : θ ≠ thread) (o : Operation) :
    (s.perform thread o θ).enabled = (s θ).enabled := by
  cases o with
  | set enabled => rw [perform, Function.update_of_ne other]
  | suspend => rw [perform, Function.update_of_ne other]
  | lift index => rw [perform, Function.update_of_ne other]
  | send index receiver =>
    rw [perform]
    cases (s thread).suspensions[index]? with
    | none => rfl
    | some found =>
      -- The receiver gets a suspension, but its mode stays what it was.
      by_cases received : θ = receiver
      · subst received
        simp [adopt, Function.update_of_ne other]
      · simp [Function.update_of_ne received, Function.update_of_ne other]

theorem enabled_after_of_others {s : Threads} {θ : Nat} {run : List (Nat × Operation)} (others : ∀ o ∈ run, θ ≠ o.1) :
    (s.after run θ).enabled = (s θ).enabled := by
  induction run generalizing s with
  | nil => rfl
  | cons o run ih =>
    obtain ⟨head, tail⟩ := List.forall_mem_cons.1 others
    rw [after_cons, ih tail, enabled_perform_of_ne head]

/-- A step in which a thread at most makes or lifts a suspension of its own. -/
def KeepsTo (θ : Nat) : Nat × Operation → Prop
  | (thread, .set _) => θ ≠ thread
  | (_, .suspend) => True
  | (_, .lift _) => True
  | (thread, .send _ receiver) => θ ≠ thread ∧ θ ≠ receiver

theorem perform_of_ne {s : Threads} {thread θ : Nat} {o : Operation} (keeps : KeepsTo θ (thread, o))
    (other : θ ≠ thread) : s.perform thread o θ = s θ := by
  cases o with
  | set enabled => exact Function.update_of_ne other ..
  | suspend => exact Function.update_of_ne other ..
  | lift index => exact Function.update_of_ne other ..
  | send index receiver =>
    rw [perform]
    cases (s thread).suspensions[index]? with
    | none => rfl
    | some found => simp [Function.update_of_ne keeps.2, Function.update_of_ne other]

end Threads

def Held (mode : Bool) (g : Gradient) : Prop := g.enabled = (mode && g.suspensions.isEmpty)

/-- Held, and only the oldest suspension has found the given mode. -/
inductive Nested (mode : Bool) : Gradient → Prop
  | free : Nested mode ⟨mode, []⟩
  | suspended (n : Nat) : Nested mode ⟨false, mode :: .replicate n false⟩

variable {mode : Bool} {g : Gradient}

theorem Nested.held (h : Nested mode g) : Held mode g := by
  cases h <;> simp [Held]

theorem Nested.suspend (h : Nested mode g) : Nested mode g.suspend := by
  cases h with
  | free => exact .suspended 0
  | suspended n =>
    rw [Gradient.suspend, List.cons_append, ← List.replicate_succ']
    exact .suspended (n + 1)

theorem Nested.lift (h : Nested mode g) (index : Nat)
    (ordered : index = 0 → mode = false ∨ g.suspensions.length ≤ 1) : Nested mode (g.lift index) := by
  cases h with
  | free => exact .free
  | suspended n =>
    cases index with
    | zero =>
      cases n with
      | zero => exact .free
      | succ n =>
        obtain rfl : mode = false := by simpa using ordered rfl
        exact .suspended n
    | succ index =>
      by_cases there : index < n
      · have found : (mode :: List.replicate n false)[index + 1]? = some false := by simp [there]
        rw [Gradient.lift, found, List.eraseIdx_cons_succ, List.eraseIdx_replicate, if_pos there]
        exact .suspended (n - 1)
      · have missing : (mode :: List.replicate n false)[index + 1]? = none := by simpa using there
        rw [Gradient.lift, missing]
        exact .suspended n

theorem Nested.not_held_lift (h : Nested true g) (several : 2 ≤ g.suspensions.length) : ¬Held true (g.lift 0) := by
  cases h with
  | free => simp at several
  | suspended n =>
    obtain ⟨n, rfl⟩ : ∃ k, n = k + 1 := ⟨n - 1, by simp at several; omega⟩
    simp [Held, Gradient.lift, List.replicate_succ]

namespace Threads

variable {s : Threads} {θ : Nat} {o : Nat × Operation} {run : List (Nat × Operation)}

theorem nested_perform (h : Nested mode (s θ)) (keeps : KeepsTo θ o)
    (ordered : o = (θ, .lift 0) → mode = false ∨ (s θ).suspensions.length ≤ 1) : Nested mode (s.perform o.1 o.2 θ) := by
  obtain ⟨thread, operation⟩ := o
  by_cases own : θ = thread
  · subst own
    cases operation with
    | set enabled => exact absurd rfl keeps
    | send index receiver => exact absurd rfl keeps.1
    | suspend => simpa [perform] using h.suspend
    | lift index =>
      have next := h.lift index fun first => ordered (by rw [first])
      simpa [perform] using next
  · rw [perform_of_ne keeps own]
    exact h

/-- At no moment of a run is the oldest suspension of a thread lifted while there are others. -/
def OldestLast (s : Threads) (θ : Nat) (run : List (Nat × Operation)) : Prop :=
  ∀ n, run[n]? = some (θ, .lift 0) → (s.after (run.take n) θ).suspensions.length ≤ 1

theorem oldestLast_cons :
    OldestLast s θ (o :: run) ↔
      (o = (θ, .lift 0) → (s θ).suspensions.length ≤ 1) ∧ OldestLast (s.perform o.1 o.2) θ run := by
  rw [OldestLast, ← Nat.and_forall_add_one]
  simp [OldestLast]

theorem held_throughout_iff (h : Nested mode (s θ)) (keeps : ∀ o ∈ run, KeepsTo θ o) :
    (∀ n, Held mode (s.after (run.take n) θ)) ↔ mode = false ∨ OldestLast s θ run := by
  induction run generalizing s with
  | nil => simp [OldestLast, h.held]
  | cons o run ih =>
    obtain ⟨head, tail⟩ := List.forall_mem_cons.1 keeps
    rw [← Nat.and_forall_add_one, oldestLast_cons]
    simp only [List.take_zero, after_nil, List.take_succ_cons, after_cons, and_iff_right h.held]
    by_cases ordered : o = (θ, .lift 0) → mode = false ∨ (s θ).suspensions.length ≤ 1
    · rw [ih (nested_perform h head ordered) tail]
      grind
    · simp only [Classical.not_imp, not_or, Bool.not_eq_false, Nat.not_le] at ordered
      obtain ⟨rfl, rfl, several⟩ := ordered
      apply iff_of_false
      · intro held
        refine h.not_held_lift several ?_
        simpa [perform] using held 0
      · rintro (off | ⟨last, -⟩)
        · cases off
        · exact Nat.not_le.2 several (last rfl)

/-- While a thread keeps to its own suspensions, its mode is held throughout exactly if it was off from the start or
the oldest of several suspensions is never lifted. What happens on other threads leaves its mode alone, whoever made
the suspensions that are lifted there. -/
theorem held_iff_oldestLast (s : Threads) (θ : Nat) (run : List (Nat × Operation)) (fresh : (s θ).suspensions = [])
    (keeps : ∀ o ∈ run, KeepsTo θ o) :
    ((∀ n, Held (s θ).enabled (s.after (run.take n) θ)) ↔ (s θ).enabled = false ∨ OldestLast s θ run) ∧
      ∀ (s : Threads) (others : List (Nat × Operation)), (∀ o ∈ others, θ ≠ o.1) →
        (s.after others θ).enabled = (s θ).enabled := by
  refine ⟨held_throughout_iff ?_ keeps, fun _ _ => enabled_after_of_others⟩
  have free : s θ = ⟨(s θ).enabled, []⟩ := by rw [← fresh]
  rw [free]
  exact .free

theorem held_iff_oldestLast_overlapping :
    let s : Threads := fun _ => {}
    let run := [(0, .suspend), (1, .suspend), (0, .suspend), (1, .send 0 2), (0, .suspend), (0, .lift 1), (2, .lift 0),
      (0, .lift 1), (1, .set true), (0, .lift 0)]
    (s 0).suspensions = [] ∧ (∀ o ∈ run, KeepsTo 0 o) ∧ ∀ n, Held true (s.after (run.take n) 0) := by
  intro s run
  have keeps : ∀ o ∈ run, KeepsTo 0 o := by simp [run, KeepsTo]
  have last : ∀ n < run.length, run[n]? = some (0, .lift 0) → (s.after (run.take n) 0).suspensions.length ≤ 1 := by
    decide
  refine ⟨rfl, keeps, (held_iff_oldestLast s 0 run rfl keeps).1.2 (.inr fun n step => ?_)⟩
  exact last n (List.getElem?_eq_some_iff.1 step).1 step

/-- Of two suspensions the older is lifted, which puts the mode on under the other. Lifting that one as well turns it
off. -/
theorem enabled_while_suspended :
    let s : Threads := fun _ => {}
    let one := s.after [(0, .suspend), (0, .suspend), (0, .lift 0)] 0
    let none := s.after [(0, .suspend), (0, .suspend), (0, .lift 0), (0, .lift 0)] 0
    (one.suspensions ≠ [] ∧ one.enabled = true) ∧ none.suspensions = [] ∧ none.enabled = false := by
  decide

end Threads

end FusionGuards.Gradient
