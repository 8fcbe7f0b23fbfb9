import FusionGuards.Proofs.History

namespace FusionGuards.Enablement

theorem Learns.eq_some {name : String} {value known : α} {names : List String} {before after : Option α}
    (learns : Learns name value names before after) (h : before = some known) : after = some known := by
  obtain ⟨rfl, -⟩ | ⟨unknown, -, -⟩ := learns
  · exact h
  · rw [h] at unknown
    cases unknown

section Between

variable (e : Enablement) (between : List Moment)

theorem forced?_after_of_some {value : Bool} (known : e.forced? = some value) :
    (e.after between).forced? = some value := by
  induction between generalizing e with
  | nil => exact known
  | cons m between ih => exact ih (e.next m) ((e.reads_next m).forced.eq_some known)

theorem assigned_after (refused : ∀ entry ∈ e.record between, entry.accepted? = none) :
    (e.after between).assigned = e.assigned := by
  induction between generalizing e with
  | nil => rfl
  | cons m between ih =>
    rw [record, List.forall_mem_cons] at refused
    have kept : (e.next m).assigned = e.assigned := by rw [assigned_next, refused.1, Option.none_or]
    exact (ih (e.next m) refused.2).trans kept

end Between

section Assign

variable (e : Enablement) (host : Host) {enabled : Bool}

theorem resolve_eq_of_assigned (assigned : e.assigned = some enabled) :
    e.resolve host = .ok (enabled && !e.forcedAt host.environment) := by
  have accepted : ¬e.Refuses host := fun refused => by simp [refused.2.1] at assigned
  rw [resolve, if_neg accepted, assigned]
  cases e.forcedAt host.environment <;> simp

def assignedAt (enabled : Bool) : Enablement := { e.resolved host with assigned := some enabled }

/-- A fuser that is turned on has its force-disable flag read by then. One that is turned off needs none. -/
theorem forced?_assignedAt (enabled : Bool) (capable : host.capabilities.suffice = true) :
    (e.assignedAt host enabled).forced? = some (e.forcedAt host.environment) := by
  have accepted : ¬e.Refuses host := fun refused => by simp [refused.2.2.2] at capable
  exact forced?_resolved accepted

theorem resolve_after_assignedAt (accepted : enabled = false ∨ host.capabilities.suffice = true)
    (between : List Moment) (later : Host)
    (refused : ∀ entry ∈ (e.assignedAt host enabled).record between, entry.accepted? = none) :
    ((e.assignedAt host enabled).after between).resolve later = .ok (enabled && !e.forcedAt host.environment) := by
  rw [resolve_eq_of_assigned _ later (assigned_after _ between refused)]
  obtain rfl | capable := accepted
  · rfl
  · have known := forced?_after_of_some _ between (e.forced?_assignedAt host enabled capable)
    rw [forcedAt, known, Option.getD_some]

theorem resolve_of_toOption {previous : Bool}
    (read : (e.resolve host).toOption.getD false = previous) :
    e.resolve host = .ok previous ∨ e.resolve host = .error .incapable ∧ previous = false := by
  by_cases refused : e.Refuses host
  · have failed := e.resolve_of_refuses host refused
    rw [failed] at read
    exact .inr ⟨failed, read.symm⟩
  · obtain ⟨b, answer⟩ := e.exists_resolve_eq_ok host refused
    rw [answer] at read
    exact .inl (answer.trans (congrArg Except.ok read))

/-- An assignment fails only where it would turn on what the host cannot run, and then nothing has happened. One that
succeeds answers what a query would have, and settles all queries up to the next one that succeeds, by the
force-disable flag as it stood. -/
theorem setEnabled_settles (enabled : Bool) :
    let answer := (e.setEnabled host enabled).value.1
    let state := (e.setEnabled host enabled).value.2
    ((∃ previous, answer = .ok previous) ↔ enabled = false ∨ host.capabilities.suffice = true) ∧
    (∀ previous, answer = .ok previous →
      ((e.isEnabled host).value.1 = .ok previous ∨
        (e.isEnabled host).value.1 = .error .incapable ∧ previous = false) ∧
      state.assigned = some enabled ∧
      ∀ (between : List Moment) (later : Host), (∀ entry ∈ state.record between, entry.accepted? = none) →
        let query := ((state.after between).isEnabled later).value.1
        query = .ok (enabled && !e.forcedAt host.environment) ∧
        query = .ok (enabled && !(state.after between).forcedAt later.environment)) ∧
    (∀ err, answer = .error err → err = .incapable ∧ state = e) := by
  intro answer state
  by_cases incapable : enabled = true ∧ host.capabilities.suffice = false
  · have outcome : (e.setEnabled host enabled).value = (.error .incapable, e) := by
      rw [value_setEnabled, if_pos incapable]
    have failed : answer = .error .incapable := congrArg Prod.fst outcome
    refine ⟨?_, fun previous succeeded => ?_, fun err failure => ⟨?_, congrArg Prod.snd outcome⟩⟩
    · simp [failed, incapable.1, incapable.2]
    · rw [failed] at succeeded
      cases succeeded
    · rw [failed] at failure
      exact (Except.error.inj failure).symm
  · have outcome : (e.setEnabled host enabled).value =
        (.ok ((e.resolve host).toOption.getD false), e.assignedAt host enabled) := by
      rw [value_setEnabled, if_neg incapable, assignedAt]
    have succeeded : answer = .ok ((e.resolve host).toOption.getD false) := congrArg Prod.fst outcome
    have settled : state = e.assignedAt host enabled := congrArg Prod.snd outcome
    have accepted : enabled = false ∨ host.capabilities.suffice = true := by
      cases enabled <;> simp_all
    refine ⟨⟨fun _ => accepted, fun _ => ⟨_, succeeded⟩⟩, fun previous read => ⟨?_, ?_, ?_⟩, fun err failure => ?_⟩
    · rw [value_isEnabled]
      exact e.resolve_of_toOption host (Except.ok.inj (succeeded.symm.trans read))
    · rw [settled, assignedAt]
    · intro between later refused
      rw [settled] at refused ⊢
      simp only [value_isEnabled]
      exact ⟨e.resolve_after_assignedAt host accepted between later refused,
        resolve_eq_of_assigned _ later (assigned_after _ between refused)⟩
    · rw [succeeded] at failure
      cases failure

end Assign

/-- The capabilities are lost and force-disable comes on after the first assignment, which counts all the same. Under the
second one force-disable was on, and its going off does not count either. -/
theorem setEnabled_outlives_host :
    let host : Host := ⟨⟨true, true, true⟩, .ofList [(enableVariable, "0")]⟩
    let forced : Host := ⟨⟨true, true, true⟩, .ofList [(forceDisableVariable, "1")]⟩
    let later : Host := ⟨{}, .ofList [(forceDisableVariable, "1")]⟩
    let between : List Moment := [⟨.isEnabled, later⟩, ⟨.setEnabled true, later⟩]
    let free := (({} : Enablement).setEnabled host true).value
    let bound := (({} : Enablement).setEnabled forced true).value
    (free.1 = .ok false ∧ (∀ entry ∈ free.2.record between, entry.accepted? = none) ∧
      ((free.2.after between).isEnabled later).value.1 = .ok true) ∧
    (bound.1 = .ok false ∧ (∀ entry ∈ bound.2.record between, entry.accepted? = none) ∧
      ((bound.2.after between).isEnabled host).value.1 = .ok false) := by
  intro host forced later between free bound
  have assigned : free.1 = .ok false := rfl
  have kept : ∀ entry ∈ free.2.record between, entry.accepted? = none :=
    List.forall_mem_cons.2 ⟨rfl, List.forall_mem_cons.2 ⟨rfl, List.forall_mem_nil _⟩⟩
  have settles := (setEnabled_settles {} host true).2.1 false assigned
  have assignedForced : bound.1 = .ok false := rfl
  have keptForced : ∀ entry ∈ bound.2.record between, entry.accepted? = none :=
    List.forall_mem_cons.2 ⟨rfl, List.forall_mem_cons.2 ⟨rfl, List.forall_mem_nil _⟩⟩
  have settlesForced := (setEnabled_settles {} forced true).2.1 false assignedForced
  exact ⟨⟨assigned, kept, (settles.2.2 between later kept).1⟩,
    assignedForced, keptForced, (settlesForced.2.2 between host keptForced).1⟩

end FusionGuards.Enablement
