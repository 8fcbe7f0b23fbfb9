import FusionGuards.Guard.Evaluation

namespace FusionGuards

namespace Binding

variable (mode : Mode) (args : List Value)

/-- What a binding comes to by itself: a fault for the first of its positions that is beyond the arguments, or else what
its guard answers on the arguments it selects. -/
def outcome (b : Binding) : Except Fault Bool :=
  match b.arguments.find? (args.length ≤ ·) with
  | some position => .error ⟨b.guard.kind, .argumentCount (position + 1) args.length⟩
  | none => (b.guard.check mode (b.arguments.filterMap (args[·]?))).run.value

theorem select_eq (positions : List Nat) :
    select args positions =
      match positions.find? (args.length ≤ ·) with
      | some position => .error position
      | none => .ok (positions.filterMap (args[·]?)) := by
  induction positions with
  | nil => rfl
  | cons position rest ih =>
    rw [select, ih]
    by_cases beyond : args.length ≤ position
    · simp [beyond]
    · have inside : position < args.length := by omega
      rw [List.getElem?_eq_getElem inside, List.find?_cons_of_neg (by simpa using beyond)]
      cases rest.find? (args.length ≤ ·) <;> simp [Except.map, inside]

theorem value_check (b : Binding) : (b.check mode args).run.value = b.outcome mode args := by
  rw [check, outcome, select_eq]
  cases b.arguments.find? (args.length ≤ ·) <;> rfl

end Binding

def Verdict.shift (n : Nat) : Verdict → Verdict
  | pass => pass
  | fail index guard => fail (n + index) guard

namespace Chain

variable (mode : Mode) (args : List Value)

theorem evaluateFrom_append (index : Nat) (bs cs : List Binding) :
    evaluateFrom mode args index (bs ++ cs) = do
      match ← evaluateFrom mode args index bs with
      | .pass => evaluateFrom mode args (index + bs.length) cs
      | .fail index guard => return .fail index guard := by
  induction bs generalizing index with
  | nil => simp [evaluateFrom]
  | cons b bs ih =>
    simp only [List.cons_append, evaluateFrom, bind_assoc]
    refine bind_congr fun passed => ?_
    cases passed with
    | true => simp only [↓reduceIte, ih, List.length_cons, Nat.add_assoc, Nat.add_comm 1]
    | false => simp

theorem evaluateFrom_add (n index : Nat) (bs : List Binding) :
    evaluateFrom mode args (n + index) bs = Verdict.shift n <$> evaluateFrom mode args index bs := by
  induction bs generalizing index with
  | nil => simp [evaluateFrom, Verdict.shift]
  | cons b bs ih =>
    simp only [evaluateFrom, map_bind]
    refine bind_congr fun passed => ?_
    cases passed with
    | true => simpa [Nat.add_assoc] using ih (index + 1)
    | false => simp [Verdict.shift]

theorem value_evaluateFrom_cons (index : Nat) (b : Binding) (rest : List Binding) :
    (evaluateFrom mode args index (b :: rest)).run.value =
      match b.outcome mode args with
      | .ok true => (evaluateFrom mode args (index + 1) rest).run.value
      | .ok false => .ok (.fail index b.guard.kind)
      | .error fault => .error fault := by
  rw [evaluateFrom, ExceptT.run_bind, Report.value_bind, Binding.value_check]
  cases b.outcome mode args with
  | ok passed => cases passed <;> rfl
  | error fault => rfl

theorem value_evaluateFrom_eq_pass_iff (index : Nat) (bs : List Binding) :
    (evaluateFrom mode args index bs).run.value = .ok .pass ↔ ∀ b ∈ bs, b.outcome mode args = .ok true := by
  induction bs generalizing index with
  | nil => simp [evaluateFrom]
  | cons b bs ih =>
    rw [value_evaluateFrom_cons, List.forall_mem_cons, ← ih (index + 1)]
    cases h : b.outcome mode args with
    | ok passed => cases passed <;> simp
    | error fault => simp

theorem value_evaluateFrom_append {before : List Binding} (passed : ∀ a ∈ before, a.outcome mode args = .ok true)
    (index : Nat) (rest : List Binding) :
    (evaluateFrom mode args index (before ++ rest)).run.value =
      (evaluateFrom mode args (index + before.length) rest).run.value := by
  rw [evaluateFrom_append, ExceptT.run_bind, Report.value_bind,
    (value_evaluateFrom_eq_pass_iff mode args index before).2 passed]

theorem evaluateFrom_append_of_stopped {bs : List Binding} {b : Binding} (mem : b ∈ bs)
    (stops : b.outcome mode args ≠ .ok true) (index : Nat) (others : List Binding) :
    evaluateFrom mode args index (bs ++ others) = evaluateFrom mode args index bs := by
  refine ExceptT.ext ?_
  rw [evaluateFrom_append, ExceptT.run_bind]
  refine (Report.bind_congr_value ?_).trans (Report.bind_pure _)
  rcases h : (evaluateFrom mode args index bs).run.value with fault | _ | ⟨i, guard⟩
  · rfl
  · exact absurd ((value_evaluateFrom_eq_pass_iff mode args index bs).1 h b mem) stops
  · rfl

/-- The first binding that does not pass gives the verdict or the fault, and what comes after it adds nothing to the
report. -/
theorem evaluate_decided_by_first (c : Chain) :
    ((c.evaluate mode args).run.value = .ok .pass ↔ ∀ b ∈ c.bindings, b.outcome mode args = .ok true) ∧
    (∀ before b after, c.bindings = before ++ b :: after →
      (∀ a ∈ before, a.outcome mode args = .ok true) → b.outcome mode args ≠ .ok true →
      (b.outcome mode args = .ok false →
        (c.evaluate mode args).run.value = .ok (.fail before.length b.guard.kind)) ∧
      (∀ fault, b.outcome mode args = .error fault → (c.evaluate mode args).run.value = .error fault) ∧
      ∀ others, Chain.evaluate mode ⟨before ++ b :: others⟩ args = c.evaluate mode args) ∧
    (∀ d : Chain, Chain.evaluate mode ⟨c.bindings ++ d.bindings⟩ args = do
      match ← c.evaluate mode args with
      | .pass => Verdict.shift c.length <$> d.evaluate mode args
      | .fail index guard => return .fail index guard) := by
  refine ⟨value_evaluateFrom_eq_pass_iff mode args 0 c.bindings, fun before b after split passed stops => ?_, fun d => ?_⟩
  · have value : (c.evaluate mode args).run.value = _ :=
      split ▸ (value_evaluateFrom_append mode args passed 0 (b :: after)).trans (value_evaluateFrom_cons mode args _ b after)
    have mem : b ∈ before ++ [b] := by simp
    have stopped := evaluateFrom_append_of_stopped mode args mem stops 0
    refine ⟨fun failed => ?_, fun fault faulty => ?_, fun others => ?_⟩
    · rw [value, failed, Nat.zero_add]
    · rw [value, faulty]
    · simp only [List.append_assoc, List.singleton_append] at stopped
      rw [evaluate, evaluate, split]
      exact (stopped others).trans (stopped after).symm
  · rw [evaluate, evaluateFrom_append, Nat.zero_add]
    refine bind_congr fun verdict => ?_
    cases verdict with
    | pass => exact evaluateFrom_add mode args c.length 0 d.bindings
    | fail index guard => rfl

theorem evaluate_unbound_position :
    let args : List Value := [.intList [1, 4], .intList [1, 2]]
    let passing : Binding := ⟨.sizeEq, [0, 1]⟩
    let unbound : Binding := ⟨.value, [1, 5, 7]⟩
    let failing : Binding := ⟨.value, [0, 1]⟩
    (∀ a ∈ [passing], a.outcome {} args = .ok true) ∧
      unbound.outcome {} args = .error ⟨.value, .argumentCount 6 2⟩ ∧
      (Chain.evaluate {} ⟨[passing, unbound, failing]⟩ args).run.value = .error ⟨.value, .argumentCount 6 2⟩ ∧
      Chain.evaluate {} ⟨[passing, unbound]⟩ args = Chain.evaluate {} ⟨[passing, unbound, failing]⟩ args := by
  intro args passing unbound failing
  have passes : ∀ a ∈ [passing], a.outcome {} args = .ok true := List.forall_mem_singleton.2 rfl
  have faulty : unbound.outcome {} args = .error ⟨.value, .argumentCount 6 2⟩ := rfl
  obtain ⟨-, fault, others⟩ := (evaluate_decided_by_first {} args ⟨[passing, unbound, failing]⟩).2.1
    [passing] unbound [failing] rfl passes (by simp [faulty])
  exact ⟨passes, faulty, fault _ faulty, others []⟩

end Chain

end FusionGuards
