import FusionGuards.Proofs.Gate

namespace FusionGuards

/-- Whatever goes wrong is put down to one guard. -/
def Blames (guard : GuardKind) (x : Except Fault α) : Prop := ∀ fault, x = .error fault → fault.guard = guard

namespace Blames

variable {guard : GuardKind}

theorem ok (a : α) : Blames guard (.ok a) := nofun

theorem error (c : Cause) : Blames guard (.error ⟨guard, c⟩ : Except Fault α) := by
  rintro fault ⟨⟩
  rfl

theorem bind {x : Except Fault α} {f : α → Except Fault β} (hx : Blames guard x) (hf : ∀ a, Blames guard (f a)) :
    Blames guard (x >>= f) := by
  cases x with
  | ok a => exact hf a
  | error fault =>
    rintro other ⟨⟩
    exact hx fault rfl

theorem map {x : Except Fault α} (hx : Blames guard x) (f : α → β) : Blames guard (x.map f) := by
  cases x with
  | ok a => exact ok (f a)
  | error fault =>
    rintro other ⟨⟩
    exact hx fault rfl

end Blames

theorem Value.blames_expectInts (guard : GuardKind) (argument : String) (v : Value) :
    Blames guard (v.expectInts guard argument) := by
  cases v with
  | intList xs => exact .ok xs
  | _ => exact .error _

namespace Signature

variable {t : Tensor}

theorem blames_checkFrom (slots : List StrideSlot) (w : Walk) (position : Nat) (unknown : Bool)
    (others : List (Option Int64)) (sizes : List Int64) :
    Blames .tensor (checkFrom t w position unknown slots others sizes).run.value := by
  induction slots generalizing w position unknown others sizes with
  | nil => exact .ok true
  | cons slot slots ih =>
    cases others with
    | nil => exact .ok true
    | cons recorded others =>
      cases sizes with
      | nil => exact .ok true
      | cons size sizes =>
        rw [checkFrom]
        cases checkSlot t w position unknown slot with
        | fault c => exact .error c
        | mismatch e => exact .ok false
        | beyond w' =>
          cases checkSize position recorded size with
          | some e => exact .ok false
          | none => apply ih

theorem blames_complies (s : Signature) (t : Tensor) (gradMode : Bool) :
    Blames .tensor (s.complies t gradMode).run.value := by
  rw [complies]
  cases s.rank with
  | none => exact .error _
  | some rank =>
    dsimp only
    iterate 4
      split
      · exact .ok false
    split
    · exact .error _
    · apply blames_checkFrom

end Signature

namespace View

theorem blames_scan (view : List Int64) (dim : Nat) (seen : Scan) : Blames .view (scan dim seen view) := by
  induction view generalizing dim seen with
  | nil => exact .ok _
  | cons size rest ih =>
    rw [scan]
    split
    · split
      · exact .error _
      · apply ih
    · split
      · exact .error _
      · cases Word.mul? seen.elements size with
        | none => exact .ok _
        | some product => apply ih

theorem blames_infer (sizes view : List Int64) : Blames .view (infer sizes view).run.value := by
  rw [infer, Attempt.value_bind, Attempt.value_ofExcept]
  refine (blames_scan view 0 ⟨none, 1⟩).bind fun seen => ?_
  split
  · split
    · exact .ok none
    · exact .ok _
  · exact .ok none

end View

theorem blames_broadcastEqual (input reference : Value) : Blames .sizeEq (broadcastEqual input reference) := by
  refine (reference.blames_expectInts .sizeEq "reference").bind fun expected => ?_
  split
  · exact .ok _
  · cases input.toInts? <;> exact .ok _

namespace Guard

variable (mode : Mode)

theorem blames_gate {guard : GuardKind} {check : Attempt Fault Bool} (blames : Blames guard check.run.value) :
    Blames guard (gate mode guard check).run.value := by
  rw [value_gate]
  split
  · exact blames
  · exact .ok true

theorem blames_tensorsComply (gradMode : Bool) (signatures : List Signature) (inputs : List Value) :
    Blames .tensor (tensorsComply gradMode signatures inputs).run.value := by
  induction signatures generalizing inputs with
  | nil => exact .ok true
  | cons s signatures ih =>
    cases inputs with
    | nil => exact .ok true
    | cons v inputs =>
      rw [tensorsComply]
      cases v.toTensor? with
      | none => exact .error _
      | some t =>
        rw [Attempt.value_bind]
        refine (s.blames_complies t gradMode).bind fun passed => ?_
        cases passed with
        | true => exact ih inputs
        | false => exact .ok false

theorem blames_resolution (sizes requested : Value) : Blames .view (resolution sizes requested) := by
  refine (sizes.blames_expectInts .view "tensor_sizes").bind fun sizes => ?_
  refine (requested.blames_expectInts .view "view_sizes").bind fun requested => ?_
  exact (View.blames_infer sizes requested).bind fun resolved? => .ok _

theorem blames_checkView (c : ViewConstraint) (sizes requested : Value) :
    Blames .view (checkView mode c sizes requested).run.value := by
  rw [value_checkView]
  exact (blames_resolution sizes requested).map _

theorem blames_check (g : Guard) (args : List Value) : Blames g.kind (g.check mode args).run.value := by
  by_cases count : args.length = g.arity
  · cases g with
    | tensor signatures =>
      rw [check_tensor mode count]
      exact blames_gate mode (blames_tensorsComply mode.gradient signatures args)
    | view c =>
      obtain ⟨sizes, requested, rfl⟩ := List.length_eq_two.1 count
      exact blames_checkView mode c sizes requested
    | value =>
      obtain ⟨lhs, rhs, rfl⟩ := List.length_eq_two.1 count
      exact blames_gate mode (.ok _)
    | sizeEq =>
      obtain ⟨input, reference, rfl⟩ := List.length_eq_two.1 count
      refine blames_gate mode ?_
      rw [Attempt.value_ofExcept]
      exact blames_broadcastEqual input reference
  · rw [check_of_length_ne mode count]
    exact .error _

theorem blames_checkTensors (signatures : List Signature) (inputs : List Value) :
    Blames .tensor (checkTensors mode signatures inputs).run.value := by
  rw [checkTensors]
  split
  · exact .error _
  · exact blames_gate mode (blames_tensorsComply mode.gradient signatures inputs)

theorem blames_checkRawView (inputs : List Value) : Blames .view (checkRawView mode inputs).run.value := by
  rw [checkRawView.eq_def]
  split
  case h_1 sizes requested inputRules viewRules =>
    rw [Attempt.value_bind, Attempt.value_ofExcept]
    refine (inputRules.blames_expectInts .view "tensor_constraint").bind fun inputRules => ?_
    rw [Attempt.value_bind, Attempt.value_ofExcept]
    refine (viewRules.blames_expectInts .view "view_sizes_constraint").bind fun viewRules => ?_
    apply blames_checkView
  case h_2 => exact .error _

theorem value_check_value_eq_error_iff {args : List Value} {fault : Fault} :
    (value.check mode args).run.value = .error fault ↔
      args.length ≠ 2 ∧ fault = ⟨.value, .argumentCount 2 args.length⟩ := by
  by_cases count : args.length = 2
  · obtain ⟨lhs, rhs, rfl⟩ := List.length_eq_two.1 count
    have answer : (value.check mode [lhs, rhs]).run.value = _ := value_gate mode .value (pure (lhs.equal rhs))
    rw [answer]
    split <;> simp
  · rw [check_of_length_ne mode count]
    exact ⟨fun faulty => ⟨count, (Except.error.inj faulty).symm⟩, fun ⟨_, same⟩ => same ▸ rfl⟩

end Guard

theorem Binding.blames_outcome (mode : Mode) (args : List Value) (b : Binding) :
    Blames b.guard.kind (b.outcome mode args) := by
  rw [outcome]
  split
  · exact .error _
  · apply Guard.blames_check

namespace Chain

variable (mode : Mode) (args : List Value)

theorem exists_of_value_evaluateFrom_eq_error {index : Nat} {bs : List Binding} {fault : Fault}
    (faulty : (evaluateFrom mode args index bs).run.value = .error fault) :
    ∃ before b after, bs = before ++ b :: after ∧ (∀ a ∈ before, a.outcome mode args = .ok true) ∧
      b.outcome mode args = .error fault := by
  induction bs generalizing index with
  | nil => cases faulty
  | cons b rest ih =>
    rw [value_evaluateFrom_cons] at faulty
    split at faulty
    case h_1 passed =>
      obtain ⟨before, stop, after, rfl, pass, own⟩ := ih faulty
      exact ⟨b :: before, stop, after, rfl, List.forall_mem_cons.2 ⟨passed, pass⟩, own⟩
    case h_2 => cases faulty
    case h_3 other own =>
      cases faulty
      exact ⟨[], b, rest, rfl, by simp, own⟩

/-- Every fault of a guard is put down to its kind, every fault of a chain to the guard that stopped it. The checks that
need no guard are put down to the kind they stand for, and value equality faults on the number of arguments only. -/
theorem evaluate_blames_first (mode : Mode) :
    (∀ (g : Guard) (args : List Value), Blames g.kind (g.check mode args).run.value) ∧
    (∀ (c : Chain) (args : List Value) (fault : Fault), (c.evaluate mode args).run.value = .error fault →
      ∃ before b after, c.bindings = before ++ b :: after ∧ (∀ a ∈ before, a.outcome mode args = .ok true) ∧
        b.outcome mode args = .error fault ∧ fault.guard = b.guard.kind) ∧
    (∀ (signatures : List Signature) (inputs : List Value),
      Blames .tensor (Guard.checkTensors mode signatures inputs).run.value) ∧
    (∀ inputs : List Value, Blames .view (Guard.checkRawView mode inputs).run.value) ∧
    (∀ input reference : Value, Blames .sizeEq (Guard.checkSizes mode input reference).run.value) ∧
    ∀ (args : List Value) (fault : Fault), (Guard.value.check mode args).run.value = .error fault ↔
      args.length ≠ 2 ∧ fault = ⟨.value, .argumentCount 2 args.length⟩ := by
  refine ⟨Guard.blames_check mode, fun c args fault faulty => ?_, Guard.blames_checkTensors mode,
    Guard.blames_checkRawView mode, fun input reference => ?_,
    fun args fault => Guard.value_check_value_eq_error_iff mode⟩
  · obtain ⟨before, b, after, split, pass, own⟩ := exists_of_value_evaluateFrom_eq_error mode args faulty
    exact ⟨before, b, after, split, pass, own, b.blames_outcome mode args fault own⟩
  · exact Guard.blames_check mode .sizeEq [input, reference]

theorem evaluate_blames_view :
    let args : List Value := [.intList [4], .intList [-1, -1]]
    let chain : Chain :=
      ⟨[⟨.value, [0, 0]⟩, ⟨.view (.ofRaw [-1] [-1]), [0, 1]⟩, ⟨.tensor [{ rank := none }], [5]⟩]⟩
    let fault : Fault := ⟨.view, .severalInferred⟩
    (chain.evaluate {} args).run.value = .error fault ∧
      ∃ before b after, chain.bindings = before ++ b :: after ∧ (∀ a ∈ before, a.outcome {} args = .ok true) ∧
        b.outcome {} args = .error fault ∧ fault.guard = b.guard.kind := by
  intro args chain fault
  have faulty : (chain.evaluate {} args).run.value = .error fault := by rfl
  exact ⟨faulty, (evaluate_blames_first {}).2.1 chain args fault faulty⟩

end Chain

end FusionGuards
