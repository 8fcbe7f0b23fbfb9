import FusionGuards.CommandLine.Run
import FusionGuards.Proofs.Gate

namespace FusionGuards

namespace Guard

variable (mode : Mode)

theorem checkTensors_eq (signatures : List Signature) (inputs : List Value) :
    checkTensors mode signatures inputs = (tensor signatures).check mode inputs := by
  by_cases count : inputs.length = signatures.length
  · rw [check_tensor mode count, checkTensors, if_neg fun miscounted => miscounted count.symm]
  · rw [check_of_length_ne mode count, checkTensors, if_pos fun same => count same.symm]
    rfl

theorem checkRawView_eq (sizes requested : Value) (inputRules viewRules : List Int64) :
    checkRawView mode [sizes, requested, .intList inputRules, .intList viewRules] =
      (view (.ofRaw inputRules viewRules)).check mode [sizes, requested] := by
  change (pure inputRules >>= fun rules => pure viewRules >>= fun others =>
    checkView mode (.ofRaw rules others) sizes requested) = _
  rw [pure_bind, pure_bind]
  rfl

theorem checkValues_eq (lhs rhs : Value) :
    liftM (checkValues mode lhs rhs) = value.check mode [lhs, rhs] := by
  change _ = gate mode .value (pure (lhs.equal rhs))
  rw [gate, checkValues]
  cases mode.guards
  · rfl
  · rw [pure_bind]
    rfl

theorem checkSizes_eq (input reference : Value) :
    checkSizes mode input reference = sizeEq.check mode [input, reference] := rfl

theorem value_check_view_intList (c : ViewConstraint) (gradMode : Bool) (sizes requested : List Int64) :
    ((view c).check ⟨true, gradMode⟩ [.intList sizes, .intList requested]).run.value =
      (c.evaluate sizes requested).run.value := by
  change (checkView _ c (.intList sizes) (.intList requested)).run.value = _
  rw [value_checkView, ViewConstraint.evaluate, Attempt.value_bind]
  change ((fun resolved? => _) <$> (View.infer sizes requested).run.value).map _ = _
  rcases (View.infer sizes requested).run.value with fault | _ | resolved <;> rfl

/-- A raw guard and the guard of a chain are one guard, in their answers, events and counts. -/
theorem raw_guards_agree (mode : Mode) (signatures : List Signature) (inputs : List Value) (x y : Value)
    (sizes requested inputRules viewRules : List Int64) :
    let c : ViewConstraint := .ofRaw inputRules viewRules
    let rules : List Value := [.intList inputRules, .intList viewRules]
    checkTensors mode signatures inputs = (tensor signatures).check mode inputs ∧
    checkRawView mode (x :: y :: rules) = (view c).check mode [x, y] ∧
    (liftM (checkValues mode x y) : Attempt Fault Bool) = value.check mode [x, y] ∧
    checkSizes mode x y = sizeEq.check mode [x, y] ∧
    ∀ (gradMode : Bool) (s : CommandLine.Surroundings),
      let answer := (c.evaluate sizes requested).run.value
      ((view c).check ⟨true, gradMode⟩ [.intList sizes, .intList requested]).run.value = answer ∧
      (checkRawView ⟨true, gradMode⟩ (.intList sizes :: .intList requested :: rules)).run.value = answer ∧
      (CommandLine.Command.run s (.checkView sizes requested inputRules viewRules)).value =
        match answer with
        | .error fault => CommandLine.failure fault.message
        | .ok passed => CommandLine.verdict s.colour passed := by
  intro c rules
  refine ⟨checkTensors_eq mode signatures inputs, checkRawView_eq mode x y inputRules viewRules,
    checkValues_eq mode x y, checkSizes_eq mode x y, fun gradMode s => ⟨?_, ?_, ?_⟩⟩
  · exact value_check_view_intList c gradMode sizes requested
  · rw [checkRawView_eq]
    exact value_check_view_intList c gradMode sizes requested
  · rw [CommandLine.Command.run, CommandLine.checkView, Report.value_bind, Report.value_bind]
    cases (c.evaluate sizes requested).run.value <;> rfl

end Guard

end FusionGuards
