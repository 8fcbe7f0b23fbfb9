import FusionGuards.Proofs.Enablement

namespace FusionGuards.Enablement

inductive Call
  | isEnabled
  | setEnabled (enabled : Bool)
  | readDefault
  | readForced
  | assigned
  deriving DecidableEq, Repr

structure Moment where
  call : Call
  host : Host

inductive Answer
  | enabled (result : Except FuserError Bool)
  | previous (result : Except FuserError Bool)
  | default (value : Option Bool)
  | forced (value : Bool)
  | assigned (value : Option Bool)

def perform (e : Enablement) (m : Moment) : Answer × Enablement :=
  match m.call with
  | .isEnabled => (e.isEnabled m.host).value.map .enabled id
  | .setEnabled enabled => (e.setEnabled m.host enabled).value.map .previous id
  | .readDefault => (e.readDefault m.host.environment).value.map .default id
  | .readForced => (e.readForced m.host.environment).value.map .forced id
  | .assigned => (.assigned e.assigned, e)

def next (e : Enablement) (m : Moment) : Enablement := (e.perform m).2

structure Entry where
  moment : Moment
  answer : Answer
  reads : List String

def entry (e : Enablement) (m : Moment) : Entry :=
  ⟨m, (e.perform m).1, (e.next m).asked.drop e.asked.length⟩

def after (e : Enablement) (run : List Moment) : Enablement := run.foldl next e

def record (e : Enablement) : List Moment → List Entry
  | [] => []
  | m :: run => e.entry m :: (e.next m).record run

def Entry.accepted? (entry : Entry) : Option Bool :=
  match entry.moment.call, entry.answer with
  | .setEnabled enabled, .previous (.ok _) => some enabled
  | _, _ => none

def Entry.answered (entry : Entry) : Bool :=
  match entry.answer with
  | .enabled (.ok _) => true
  | _ => false

def lastAccepted (history : List Entry) : Option Bool := (history.filterMap Entry.accepted?).getLast?

/-- What the environment had for a variable when it was first asked for. -/
def firstRead (name : String) (history : List Entry) : Option (Option String) :=
  (history.find? (name ∈ ·.reads)).map (·.moment.host.environment name)

def firstDefault (history : List Entry) : Option (Option Bool) :=
  (firstRead enableVariable history).map (·.map Switch.enables)

def firstForced (history : List Entry) : Option Bool :=
  (firstRead forceDisableVariable history).map (·.any Switch.forces)

theorem record_append (e : Enablement) (run rest : List Moment) :
    e.record (run ++ rest) = e.record run ++ (e.after run).record rest := by
  induction run generalizing e with
  | nil => rfl
  | cons m run ih => simp [record, after, ih]

theorem lastAccepted_concat (history : List Entry) (entry : Entry) :
    lastAccepted (history ++ [entry]) = entry.accepted?.or (lastAccepted history) := by
  cases h : entry.accepted? <;> simp [lastAccepted, h]

theorem firstRead_append (name : String) (history rest : List Entry) :
    firstRead name (history ++ rest) = (firstRead name history).or (firstRead name rest) := by
  rw [firstRead, List.find?_append, Option.map_or]
  rfl

theorem firstRead_singleton (name : String) (entry : Entry) :
    firstRead name [entry] = if name ∈ entry.reads then some (entry.moment.host.environment name) else none := by
  by_cases asked : name ∈ entry.reads <;> simp [firstRead, asked]

theorem firstDefault_append (history rest : List Entry) :
    firstDefault (history ++ rest) = (firstDefault history).or (firstDefault rest) := by
  rw [firstDefault, firstRead_append, Option.map_or]
  rfl

theorem firstForced_append (history rest : List Entry) :
    firstForced (history ++ rest) = (firstForced history).or (firstForced rest) := by
  rw [firstForced, firstRead_append, Option.map_or]
  rfl

section Step

variable (e : Enablement) (host : Host)

@[simp] theorem perform_isEnabled : e.perform ⟨.isEnabled, host⟩ = (.enabled (e.resolve host), e.resolved host) := by
  simp [perform, value_isEnabled]

@[simp] theorem perform_setEnabled (enabled : Bool) : e.perform ⟨.setEnabled enabled, host⟩ =
    if enabled = true ∧ host.capabilities.suffice = false then (.previous (.error .incapable), e)
    else (.previous (.ok ((e.resolve host).toOption.getD false)),
      { e.resolved host with assigned := some enabled }) := by
  simp only [perform, value_setEnabled]
  split <;> rfl

@[simp] theorem perform_readDefault : e.perform ⟨.readDefault, host⟩ =
    (.default (e.defaultAt host.environment), e.withDefault host.environment) := by
  simp [perform, value_readDefault]

@[simp] theorem perform_readForced : e.perform ⟨.readForced, host⟩ =
    (.forced (e.forcedAt host.environment), e.withForced host.environment) := by
  simp [perform, value_readForced]

@[simp] theorem perform_assigned : e.perform ⟨.assigned, host⟩ = (.assigned e.assigned, e) := rfl

theorem exists_reads_next (m : Moment) : ∃ names, Reads m.host.environment names e (e.next m) := by
  obtain ⟨call, host⟩ := m
  rw [next]
  cases call with
  | isEnabled =>
    rw [perform_isEnabled]
    exact e.reads_resolved host
  | setEnabled enabled =>
    rw [perform_setEnabled]
    split
    · exact ⟨[], .refl _ e⟩
    · obtain ⟨names, asked, default, forced⟩ := e.reads_resolved host
      exact ⟨names, asked, default, forced⟩
  | readDefault =>
    rw [perform_readDefault]
    exact e.reads_withDefault _
  | readForced =>
    rw [perform_readForced]
    exact e.reads_withForced _
  | assigned => exact ⟨[], .refl _ e⟩

theorem reads_next (m : Moment) : Reads m.host.environment (e.entry m).reads e (e.next m) := by
  obtain ⟨names, reads⟩ := e.exists_reads_next m
  have same : (e.entry m).reads = names := by rw [entry, reads.asked, List.drop_left]
  rwa [same]

theorem assigned_next (m : Moment) : (e.next m).assigned = (e.entry m).accepted?.or e.assigned := by
  obtain ⟨call, host⟩ := m
  cases call with
  | isEnabled => simp [next, entry, Entry.accepted?]
  | setEnabled enabled =>
    simp only [next, entry, Entry.accepted?, perform_setEnabled]
    split_ifs <;> rfl
  | readDefault => simp [next, entry, Entry.accepted?]
  | readForced => simp [next, entry, Entry.accepted?]
  | assigned => simp [next, entry, Entry.accepted?]

theorem answered_isEnabled_iff : (e.entry ⟨.isEnabled, host⟩).answered = true ↔ ¬e.Refuses host := by
  by_cases refused : e.Refuses host
  · simp [entry, Entry.answered, refused, e.resolve_of_refuses host refused]
  · obtain ⟨b, answer⟩ := e.exists_resolve_eq_ok host refused
    simp [entry, Entry.answered, refused, answer]

theorem validated_next_iff (m : Moment) (unassigned : (e.next m).assigned = none) :
    (e.next m).validated = true ↔ e.validated = true ∨ (e.entry m).answered = true := by
  obtain ⟨call, host⟩ := m
  cases call with
  | isEnabled =>
    have kept : e.validated = true → ¬e.Refuses host := fun validated refused => by simp [refused.1] at validated
    rw [answered_isEnabled_iff, next, perform_isEnabled, validated_resolved_iff]
    exact ⟨.inr, fun h => h.elim kept id⟩
  | setEnabled enabled =>
    simp only [next, entry, Entry.answered, perform_setEnabled] at unassigned ⊢
    split at unassigned
    case isTrue refused => simp [refused]
    case isFalse => cases unassigned
  | readDefault => simp [next, entry, Entry.answered]
  | readForced => simp [next, entry, Entry.answered]
  | assigned => simp [next, entry, Entry.answered]

end Step

/-- What a state holds is what the record tells: the last assignment that was accepted, whether a query was answered as
long as there is none, and what was read first. -/
structure Tracks (history : List Entry) (e : Enablement) : Prop where
  assigned_eq : e.assigned = lastAccepted history
  validated_iff : e.assigned = none → (e.validated = true ↔ history.any Entry.answered = true)
  default?_eq : e.default? = firstDefault history
  forced?_eq : e.forced? = firstForced history

theorem tracks_start : Tracks [] {} where
  assigned_eq := rfl
  validated_iff _ := by simp
  default?_eq := rfl
  forced?_eq := rfl

theorem Learns.eq_firstRead {name : String} {α : Type} {parse : Option String → α} {history : List Entry}
    {entry : Entry} {before after : Option α} (known : before = (firstRead name history).map parse)
    (learns : Learns name (parse (entry.moment.host.environment name)) entry.reads before after) :
    after = (firstRead name (history ++ [entry])).map parse := by
  rw [firstRead_append, firstRead_singleton]
  obtain ⟨rfl, unread⟩ | ⟨rfl, rfl, once⟩ := learns
  · rw [if_neg (List.count_eq_zero.1 unread), Option.or_none, known]
  · have unknown : firstRead name history = none := by simpa using known.symm
    rw [if_pos (List.count_pos_iff.1 (by omega)), unknown]
    rfl

theorem Tracks.next {history : List Entry} {e : Enablement} (h : Tracks history e) (m : Moment) :
    Tracks (history ++ [e.entry m]) (e.next m) where
  assigned_eq := by rw [assigned_next, lastAccepted_concat, h.assigned_eq]
  validated_iff unassigned := by
    have before : e.assigned = none := by
      rw [assigned_next, Option.or_eq_none_iff] at unassigned
      exact unassigned.2
    rw [validated_next_iff e m unassigned, h.validated_iff before]
    simp
  default?_eq := (e.reads_next m).default.eq_firstRead h.default?_eq
  forced?_eq := (e.reads_next m).forced.eq_firstRead h.forced?_eq

theorem Tracks.run {history : List Entry} {e : Enablement} (h : Tracks history e) (run : List Moment) :
    Tracks (history ++ e.record run) (e.after run) := by
  induction run generalizing history e with
  | nil => simpa [record, after] using h
  | cons m run ih => simpa [record, after] using ih (h.next m)

theorem tracks_record (run : List Moment) : Tracks (record {} run) (after {} run) := by
  simpa using tracks_start.run run

end FusionGuards.Enablement
