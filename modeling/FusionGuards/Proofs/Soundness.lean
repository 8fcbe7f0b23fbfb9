import FusionGuards.Proofs.Indexing
import FusionGuards.Proofs.Malformed
import FusionGuards.Proofs.Compliance

namespace FusionGuards

namespace Guard

/-- The arguments that a guard is made for, apart from how many there are. -/
inductive Takes : Guard → List Value → Prop
  | tensor {signatures : List Signature} {inputs : List Value}
      (wellFormed : ∀ s ∈ signatures, ∃ rank, s.WellFormed rank) (tensors : ∀ v ∈ inputs, ∃ t, v = .tensor t) :
      Takes (.tensor signatures) inputs
  | view (c : ViewConstraint) (sizes : List Int64) {requested : List Int64} (sensible : View.Requested requested) :
      Takes (.view c) [.intList sizes, .intList requested]
  | value (args : List Value) : Takes .value args
  | sizeEq (input : Value) (reference : List Int64) : Takes .sizeEq [input, .intList reference]

variable {mode : Mode} {g : Guard} {args : List Value}

theorem exists_value_tensorsComply {signatures : List Signature} {inputs : List Value} (gradMode : Bool)
    (wellFormed : ∀ s ∈ signatures, ∃ rank, s.WellFormed rank) (tensors : ∀ v ∈ inputs, ∃ t, v = .tensor t) :
    ∃ b, (tensorsComply gradMode signatures inputs).run.value = .ok b := by
  induction signatures generalizing inputs with
  | nil => exact ⟨true, rfl⟩
  | cons s signatures ih =>
    cases inputs with
    | nil => exact ⟨true, rfl⟩
    | cons v inputs =>
      obtain ⟨⟨rank, head⟩, others⟩ := List.forall_mem_cons.1 wellFormed
      obtain ⟨⟨t, rfl⟩, rest⟩ := List.forall_mem_cons.1 tensors
      obtain ⟨complies, answer⟩ := head.exists_value_complies t gradMode
      rw [tensorsComply]
      simp only [Value.toTensor?, Attempt.value_bind, answer]
      cases complies with
      | true => exact ih others rest
      | false => exact ⟨false, rfl⟩

theorem exists_value_gate {guard : GuardKind} {check : Attempt Fault Bool}
    (answers : ∃ b, check.run.value = .ok b) : ∃ b, (gate mode guard check).run.value = .ok b := by
  rw [value_gate]
  split
  · exact answers
  · exact ⟨true, rfl⟩

theorem exists_resolution {requested : List Int64} (sensible : View.Requested requested) (sizes : List Int64) :
    ∃ resolved?, resolution (.intList sizes) (.intList requested) = .ok resolved? := by
  obtain ⟨resolved?, answer, -⟩ := sensible.exists_value_infer sizes
  refine ⟨resolved?.map (sizes, ·), ?_⟩
  simp only [resolution, Value.expectInts]
  exact congrArg (· >>= fun resolved? => pure (resolved?.map (sizes, ·))) answer

theorem exists_broadcastEqual (input : Value) (reference : List Int64) :
    ∃ b, broadcastEqual input (.intList reference) = .ok b := by
  change ∃ b, (if reference = [] then pure input.isNone else _ : Except Fault Bool) = .ok b
  split
  · exact ⟨_, rfl⟩
  · cases input.toInts? <;> exact ⟨_, rfl⟩

theorem Takes.exists_value_check (takes : g.Takes args) (count : args.length = g.arity) :
    ∃ b, (g.check mode args).run.value = .ok b := by
  cases takes with
  | tensor wellFormed tensors =>
    rw [check_tensor mode count]
    exact exists_value_gate (exists_value_tensorsComply mode.gradient wellFormed tensors)
  | @view c sizes requested sensible =>
    obtain ⟨resolved?, resolves⟩ := exists_resolution sensible sizes
    have answer := value_checkView mode c (.intList sizes) (.intList requested)
    rw [resolves] at answer
    exact ⟨_, answer⟩
  | value =>
    obtain ⟨lhs, rhs, rfl⟩ := List.length_eq_two.1 count
    exact exists_value_gate ⟨_, rfl⟩
  | sizeEq input reference =>
    obtain ⟨passed, answer⟩ := exists_broadcastEqual input reference
    exact exists_value_gate ⟨passed, by rw [Attempt.value_ofExcept, answer]⟩

end Guard

structure Binding.Sound (args : List Value) (b : Binding) : Prop where
  count : b.arguments.length = b.guard.arity
  inside : ∀ position ∈ b.arguments, position < args.length
  takes : b.guard.Takes (b.arguments.filterMap (args[·]?))

namespace Binding

variable {args : List Value} {b : Binding}

theorem length_selected {positions : List Nat} (inside : ∀ position ∈ positions, position < args.length) :
    (positions.filterMap (args[·]?)).length = positions.length := by
  rw [List.filterMap_length_eq_length]
  simpa using inside

theorem Sound.exists_outcome (mode : Mode) (sound : b.Sound args) : ∃ passed, b.outcome mode args = .ok passed := by
  have unbound : b.arguments.find? (args.length ≤ ·) = none := by
    simpa using sound.inside
  rw [outcome, unbound]
  exact sound.takes.exists_value_check ((length_selected sound.inside).trans sound.count)

end Binding

namespace Chain

variable {mode : Mode} {args : List Value}

theorem exists_value_evaluateFrom {bs : List Binding} (sound : ∀ b ∈ bs, b.Sound args) (index : Nat) :
    ∃ verdict, (evaluateFrom mode args index bs).run.value = .ok verdict := by
  induction bs generalizing index with
  | nil => exact ⟨.pass, rfl⟩
  | cons b rest ih =>
    obtain ⟨head, others⟩ := List.forall_mem_cons.1 sound
    obtain ⟨passed, outcome⟩ := head.exists_outcome mode
    rw [value_evaluateFrom_cons, outcome]
    cases passed with
    | true => exact ih others (index + 1)
    | false => exact ⟨_, rfl⟩

/-- A chain of sound bindings comes to a verdict. Sound or not, no index that its evaluation reads a list by is beyond
that list. -/
theorem evaluate_never_faults (mode : Mode) (c : Chain) (args : List Value) :
    ((∀ b ∈ c.bindings, b.Sound args) → ∃ verdict, (c.evaluate mode args).run.value = .ok verdict) ∧
      c.evaluateIndexed mode args = some (c.evaluate mode args).run.value :=
  ⟨fun sound => exists_value_evaluateFrom sound 0, evaluateIndexed_eq mode args c⟩

theorem evaluate_overflowing_strides :
    let t : Tensor := ⟨[3, 4611686018427387904], [1, 4], .float, .cpu, false, rfl, by simp⟩
    let s : Signature := { rank := some 2, sizes := [none, none], slots := [⟨some 1, false⟩, ⟨some 1, true⟩] }
    let args : List Value := [.tensor t, .intList [4611686018427387904, 4], .intList [-1, 7], .none, .intList []]
    let chain : Chain := ⟨[⟨.value, [0, 0]⟩, ⟨.sizeEq, [3, 4]⟩, ⟨.tensor [s], [0]⟩, ⟨.view (.ofRaw [-1] [-1]), [1, 2]⟩]⟩
    (∀ b ∈ chain.bindings, b.Sound args) ∧ (∃ verdict, (chain.evaluate {} args).run.value = .ok verdict) ∧
      chain.evaluateIndexed {} args = some (.ok (.fail 2 .tensor)) := by
  intro t s args chain
  have wellFormed : s.WellFormed 2 := by
    refine ⟨rfl, by decide, by decide, by decide, ?_⟩
    intro p hp
    obtain rfl : p = 0 := by omega
    decide
  have sound : ∀ b ∈ chain.bindings, b.Sound args := by
    simp only [chain, List.forall_mem_cons]
    refine ⟨⟨rfl, by decide, .value _⟩, ⟨rfl, by decide, .sizeEq _ _⟩, ⟨rfl, by decide, ?_⟩,
      ⟨rfl, by decide, ?_⟩, nofun⟩
    · exact .tensor (List.forall_mem_singleton.2 ⟨2, wellFormed⟩) (List.forall_mem_singleton.2 ⟨t, rfl⟩)
    · exact .view _ _ ⟨by decide, by simp [openAxis]⟩
  obtain ⟨answers, indexed⟩ := chain.evaluate_never_faults {} args
  exact ⟨sound, answers sound, indexed.trans (by rfl)⟩

end Chain

end FusionGuards
