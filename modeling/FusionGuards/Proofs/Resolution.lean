import FusionGuards.Proofs.History

/-! The wish of the environment for a fuser that the host cannot run is an error up to the first query that is
answered, and force-disable does not keep that error back. -/

namespace FusionGuards.Enablement

def byDefault (default : Option Bool) (capable answered : Bool) : Except FuserError Bool :=
  match default with
  | none => .ok capable
  | some false => .ok false
  | some true => if capable ∨ answered then .ok true else .error .incapable

theorem exists_byDefault_eq_ok (default : Option Bool) (capable : Bool) :
    ∃ b, byDefault default capable true = .ok b := by
  rcases default with _ | _ | _
  · exact ⟨_, rfl⟩
  · exact ⟨_, rfl⟩
  · exact ⟨true, by simp [byDefault]⟩

section State

variable {e : Enablement} {host : Host}

theorem resolve_of_assigned {b : Bool} (assigned : e.assigned = some b)
    (unforced : ¬e.Refuses host → e.forcedAt host.environment = false) : e.resolve host = .ok b := by
  have accepted : ¬e.Refuses host := fun refused => by simp [refused.2.1] at assigned
  simp [resolve, accepted, unforced accepted, assigned]

theorem resolve_of_unassigned (unassigned : e.assigned = none)
    (unforced : ¬e.Refuses host → e.forcedAt host.environment = false) :
    e.resolve host = byDefault (e.defaultAt host.environment) host.capabilities.suffice e.validated := by
  by_cases refused : e.Refuses host
  · rw [e.resolve_of_refuses host refused]
    obtain ⟨unvalidated, -, wished, incapable⟩ := refused
    simp [byDefault, unvalidated, wished, incapable]
  · have answer : e.resolve host = .ok ((e.defaultAt host.environment).getD host.capabilities.suffice) := by
      simp [resolve, refused, unforced refused, unassigned]
    rw [answer]
    rcases default : e.defaultAt host.environment with _ | _ | _
    · rfl
    · rfl
    · have confirmed : host.capabilities.suffice = true ∨ e.validated = true := by
        cases validated : e.validated with
        | true => exact .inr rfl
        | false => simpa [Refuses, unassigned, default, validated] using refused
      simp [byDefault, confirmed]

theorem Tracks.resolve_eq {history : List Entry} (h : Tracks history e)
    (unforced : ¬e.Refuses host → e.forcedAt host.environment = false) :
    e.resolve host = match lastAccepted history with
      | some b => .ok b
      | none => byDefault (e.defaultAt host.environment) host.capabilities.suffice (history.any Entry.answered) := by
  cases last : lastAccepted history with
  | some b => exact resolve_of_assigned (h.assigned_eq.trans last) unforced
  | none =>
    have unassigned := h.assigned_eq.trans last
    rw [resolve_of_unassigned unassigned unforced, Bool.eq_iff_iff.2 (h.validated_iff unassigned)]

theorem Tracks.refuses_iff {history : List Entry} (h : Tracks history e) :
    e.Refuses host ↔ lastAccepted history = none ∧ history.any Entry.answered = false ∧
      e.defaultAt host.environment = some true ∧ host.capabilities.suffice = false := by
  rw [← h.assigned_eq, Refuses, and_left_comm]
  refine and_congr_right fun unassigned => and_congr_left fun _ => ?_
  rw [← Bool.not_eq_true, ← Bool.not_eq_true, h.validated_iff unassigned]

end State

section Query

variable (past future : List Moment) (host : Host)

theorem firstForced_query (accepted : ¬(after {} past).Refuses host) :
    firstForced (record {} (past ++ ⟨.isEnabled, host⟩ :: future)) =
      some ((after {} past).forcedAt host.environment) := by
  have read := ((tracks_record past).next ⟨.isEnabled, host⟩).forced?_eq
  rw [next, perform_isEnabled, forced?_resolved accepted] at read
  rw [record_append, record, List.append_cons, firstForced_append, ← read, Option.some_or]

theorem firstDefault_query (unassigned : (after {} past).assigned = none)
    (unforced : ¬(after {} past).Refuses host → (after {} past).forcedAt host.environment = false) :
    firstDefault (record {} (past ++ ⟨.isEnabled, host⟩ :: future)) =
      some ((after {} past).defaultAt host.environment) := by
  have read := ((tracks_record past).next ⟨.isEnabled, host⟩).default?_eq
  rw [next, perform_isEnabled, default?_resolved unassigned unforced] at read
  rw [record_append, record, List.append_cons, firstDefault_append, ← read, Option.some_or]

/-- The last assignment counts, then the default that is read first in the run. After an answer or an accepted
assignment there is no error. -/
theorem isEnabled_of_unforced
    (unforced : firstForced (record {} (past ++ ⟨.isEnabled, host⟩ :: future)) ≠ some true) :
    let before := record {} past
    let answer := ((after {} past).isEnabled host).value.1
    (∀ b, lastAccepted before = some b → answer = .ok b) ∧
    (lastAccepted before = none → ∃ default,
      firstDefault (record {} (past ++ ⟨.isEnabled, host⟩ :: future)) = some default ∧
        answer = byDefault default host.capabilities.suffice (before.any Entry.answered)) ∧
    ((lastAccepted before).isSome ∨ before.any Entry.answered → ∃ b, answer = .ok b) := by
  intro before answer
  have tracks : Tracks before (after {} past) := tracks_record past
  have off : ¬(after {} past).Refuses host → (after {} past).forcedAt host.environment = false := fun accepted => by
    simpa [firstForced_query past future host accepted] using unforced
  have resolves : answer = _ := (congrArg Prod.fst (value_isEnabled _ host)).trans (tracks.resolve_eq off)
  refine ⟨fun b last => ?_, fun last => ⟨(after {} past).defaultAt host.environment, ?_, ?_⟩, fun settled => ?_⟩
  · rw [resolves, last]
  · exact firstDefault_query past future host (tracks.assigned_eq.trans last) off
  · rw [resolves, last]
  · cases last : lastAccepted before with
    | some b => exact ⟨b, by rw [resolves, last]⟩
    | none =>
      have answered : before.any Entry.answered = true := by simpa [last] using settled
      rw [resolves, last, answered]
      exact exists_byDefault_eq_ok _ _

end Query

/-- The wish of the environment and the capabilities are both gone after the first answer, and the query still answers
as the wish was read. -/
theorem isEnabled_withdrawn :
    let past : List Moment := [⟨.isEnabled, ⟨⟨true, true, true⟩, .ofList [(enableVariable, "1")]⟩⟩]
    let host : Host := ⟨{}, .ofList [(enableVariable, "0"), (forceDisableVariable, "1")]⟩
    let future : List Moment := [⟨.setEnabled false, host⟩]
    firstForced (record {} (past ++ ⟨.isEnabled, host⟩ :: future)) ≠ some true ∧
      ((after {} past).isEnabled host).value.1 = .ok true := by
  intro past host future
  have unforced : firstForced (record {} (past ++ ⟨.isEnabled, host⟩ :: future)) ≠ some true := by decide
  have wished : firstDefault (record {} (past ++ ⟨.isEnabled, host⟩ :: future)) = some (some true) := by decide
  obtain ⟨default, read, answer⟩ := (isEnabled_of_unforced past future host unforced).2.1 rfl
  obtain rfl : some true = default := Option.some.inj (wished.symm.trans read)
  exact ⟨unforced, answer⟩

theorem isEnabled_of_forced (past : List Moment) (host : Host)
    (forced : (after {} past).forcedAt host.environment = true) :
    ((after {} past).isEnabled host).value.1 =
      if lastAccepted (record {} past) = none ∧ (record {} past).any Entry.answered = false ∧
          (after {} past).defaultAt host.environment = some true ∧ host.capabilities.suffice = false
      then .error .incapable else .ok false := by
  rw [value_isEnabled, resolve, if_pos forced]
  simp only [(tracks_record past).refuses_iff]

theorem isEnabled_forced_answered :
    let past : List Moment :=
      [⟨.isEnabled, ⟨⟨true, true, true⟩, .ofList [(enableVariable, "1"), (forceDisableVariable, "ON")]⟩⟩]
    (after {} past).forcedAt .empty = true ∧ ((after {} past).isEnabled ⟨{}, .empty⟩).value.1 = .ok false := by
  intro past
  have forced : (after {} past).forcedAt .empty = true := by decide
  have answer := isEnabled_of_forced past ⟨{}, .empty⟩ forced
  have settled : (record {} past).any Entry.answered = true := rfl
  rw [settled] at answer
  exact ⟨forced, answer.trans (if_neg fun refused => by cases refused.2.1)⟩

theorem isEnabled_forced_refused :
    let host : Host := ⟨{}, .ofList [(enableVariable, "1"), (forceDisableVariable, "1")]⟩
    (after {} []).forcedAt host.environment = true ∧
      ((after {} []).isEnabled host).value.1 = .error .incapable :=
  ⟨by decide, rfl⟩

end FusionGuards.Enablement
