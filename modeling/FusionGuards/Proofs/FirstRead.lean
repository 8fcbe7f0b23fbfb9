import FusionGuards.Proofs.History
import Mathlib.Data.List.Forall2
import Mathlib.Data.List.Nodup

namespace FusionGuards.Enablement

/-- A computation on a state adds the names it asks for to those of the state, and depends on nothing else of the
environment. -/
def AsksFor (e : Enablement) (x : Environment → Report (α × Enablement)) : Prop :=
  ∀ env, ∃ names, (x env).value.2.asked = e.asked ++ names ∧
    (∀ name ∈ names, name = enableVariable ∨ name = forceDisableVariable) ∧
    ∀ other : Environment, (∀ name ∈ names, other name = env name) → x other = x env

namespace AsksFor

variable {e : Enablement}

theorem const {r : Report (α × Enablement)} (kept : r.value.2.asked = e.asked) : AsksFor e fun _ => r :=
  fun _ => ⟨[], by simpa using kept, by simp, fun _ _ => rfl⟩

theorem bind {x : Environment → Report (α × Enablement)} {f : α × Enablement → Environment → Report (β × Enablement)}
    (hx : AsksFor e x) (hf : ∀ p, AsksFor p.2 (f p)) : AsksFor e fun env => x env >>= fun p => f p env := by
  intro env
  obtain ⟨names, asked, known, agree⟩ := hx env
  obtain ⟨others, askedAfter, knownAfter, agreeAfter⟩ := hf (x env).value env
  refine ⟨names ++ others, ?_, ?_, fun other same => ?_⟩
  · rw [Report.value_bind, askedAfter, asked, List.append_assoc]
  · exact fun name mem => (List.mem_append.1 mem).elim (known name) (knownAfter name)
  · rw [List.forall_mem_append] at same
    simp only [agree other same.1]
    exact Report.bind_congr_value (agreeAfter other same.2)

theorem map {x : Environment → Report (α × Enablement)} (hx : AsksFor e x) (f : α → β) :
    AsksFor e fun env => pure ((x env).value.map f id) := by
  intro env
  obtain ⟨names, asked, known, agree⟩ := hx env
  exact ⟨names, asked, known, fun other same => by simp only [agree other same]⟩

theorem after {r : Report β} {f : β → Environment → Report (α × Enablement)} (hf : AsksFor e (f r.value)) :
    AsksFor e fun env => r >>= fun b => f b env := by
  intro env
  obtain ⟨names, asked, known, agree⟩ := hf env
  exact ⟨names, asked, known, fun other same => Report.bind_congr_value (agree other same)⟩

end AsksFor

section Computations

variable (e : Enablement) (capabilities : Capabilities)

theorem asksFor_readDefault : AsksFor e e.readDefault := by
  intro env
  cases known : e.default? with
  | some value => exact ⟨[], by simp [readDefault, known], by simp, fun other _ => by simp [readDefault, known]⟩
  | none =>
    refine ⟨[enableVariable], by simp [readDefault, known], by simp, fun other same => ?_⟩
    simp [readDefault, known, same enableVariable]

theorem asksFor_readForced : AsksFor e e.readForced := by
  intro env
  cases known : e.forced? with
  | some value => exact ⟨[], by simp [readForced, known], by simp, fun other _ => by simp [readForced, known]⟩
  | none =>
    refine ⟨[forceDisableVariable], by simp [readForced, known], by simp, fun other same => ?_⟩
    simp [readForced, known, same forceDisableVariable]

theorem asksFor_validate : AsksFor e fun env => e.validate ⟨capabilities, env⟩ := by
  unfold validate
  split
  · exact .const rfl
  split
  · exact .const rfl
  refine .bind e.asksFor_readDefault fun p => ?_
  obtain ⟨value, known⟩ := p
  dsimp only
  refine .const ?_
  rw [Report.value_bind]
  split <;> rfl

theorem asksFor_isEnabled : AsksFor e fun env => e.isEnabled ⟨capabilities, env⟩ := by
  refine .bind (e.asksFor_validate capabilities) fun p => ?_
  obtain ⟨err | _, validated⟩ := p
  · exact .const rfl
  refine .bind validated.asksFor_readForced fun p => ?_
  obtain ⟨forced, known⟩ := p
  dsimp only
  split
  · exact .const rfl
  split
  · exact .const rfl
  exact .bind known.asksFor_readDefault fun p => .const rfl

theorem asksFor_setEnabled (enabled : Bool) : AsksFor e fun env => e.setEnabled ⟨capabilities, env⟩ enabled := by
  simp only [setEnabled]
  refine .after ?_
  split
  · exact .const rfl
  refine .bind (e.asksFor_isEnabled capabilities) fun p => ?_
  obtain ⟨err | previous, resolved⟩ := p
  · dsimp only
    split
    · exact .const rfl
    · exact .const rfl
  · exact .const rfl

end Computations

def Moment.given (m : Moment) : Call × Capabilities := (m.call, m.host.capabilities)

def Moment.within (m : Moment) (env : Environment) : Moment := ⟨m.call, m.host.capabilities, env⟩

theorem Moment.eq_within {m other : Moment} (given : other.given = m.given) :
    other = m.within other.host.environment := by
  obtain ⟨call, capabilities, env⟩ := other
  obtain ⟨rfl, rfl⟩ := Prod.mk.inj given
  rfl

section Step

variable (e : Enablement)

theorem asksFor_perform (m : Moment) : AsksFor e fun env => pure (e.perform (m.within env)) := by
  obtain ⟨call, capabilities, -⟩ := m
  cases call with
  | isEnabled => exact (e.asksFor_isEnabled capabilities).map Answer.enabled
  | setEnabled enabled => exact (e.asksFor_setEnabled capabilities enabled).map Answer.previous
  | readDefault => exact e.asksFor_readDefault.map Answer.default
  | readForced => exact e.asksFor_readForced.map Answer.forced
  | assigned =>
    have kept : AsksFor e fun _ => pure (Answer.assigned e.assigned, e) := .const rfl
    exact kept

theorem reads_entry_eq {m : Moment} {names : List String} (asked : (e.next m).asked = e.asked ++ names) :
    (e.entry m).reads = names := by
  rw [entry, asked, List.drop_left]

theorem known_of_mem_reads {m : Moment} {name : String} (mem : name ∈ (e.entry m).reads) :
    name = enableVariable ∨ name = forceDisableVariable := by
  obtain ⟨names, asked, known, -⟩ := e.asksFor_perform m m.host.environment
  have reads : (e.entry m).reads = names := e.reads_entry_eq asked
  rw [reads] at mem
  exact known name mem

theorem perform_eq_of_agree {m other : Moment} (given : other.given = m.given)
    (agree : ∀ name ∈ (e.entry m).reads, other.host.environment name = m.host.environment name) :
    e.perform other = e.perform m := by
  obtain ⟨names, asked, -, same⟩ := e.asksFor_perform m m.host.environment
  have reads : (e.entry m).reads = names := e.reads_entry_eq asked
  rw [reads] at agree
  rw [Moment.eq_within given]
  exact congrArg Report.value (same other.host.environment agree)

end Step

theorem Learns.count_add {name : String} {value : α} {names : List String} {before after : Option α}
    (learns : Learns name value names before after) :
    before.toList.length + names.count name = after.toList.length := by
  obtain ⟨rfl, unread⟩ | ⟨rfl, rfl, once⟩ := learns
  · rw [unread, Nat.add_zero]
  · rw [once]
    rfl

structure AsksOnce (e : Enablement) : Prop where
  default : e.asked.count enableVariable = e.default?.toList.length
  forced : e.asked.count forceDisableVariable = e.forced?.toList.length
  known : ∀ name ∈ e.asked, name = enableVariable ∨ name = forceDisableVariable

theorem asksOnce_start : AsksOnce {} := ⟨rfl, rfl, nofun⟩

namespace AsksOnce

variable {e : Enablement}

theorem next (h : AsksOnce e) (m : Moment) : AsksOnce (e.next m) where
  default := by rw [(e.reads_next m).asked, List.count_append, h.default, (e.reads_next m).default.count_add]
  forced := by rw [(e.reads_next m).asked, List.count_append, h.forced, (e.reads_next m).forced.count_add]
  known name mem := by
    rw [(e.reads_next m).asked, List.mem_append] at mem
    exact mem.elim (h.known name) e.known_of_mem_reads

theorem after (h : AsksOnce e) (run : List Moment) : AsksOnce (e.after run) := by
  induction run generalizing e with
  | nil => exact h
  | cons m run ih => exact ih (h.next m)

theorem nodup (h : AsksOnce e) : e.asked.Nodup := by
  rw [List.nodup_iff_count_le_one]
  intro name
  by_cases mem : name ∈ e.asked
  · obtain rfl | rfl := h.known name mem
    · rw [h.default]
      cases e.default? <;> simp
    · rw [h.forced]
      cases e.forced? <;> simp
  · rw [List.count_eq_zero_of_not_mem mem]
    exact Nat.zero_le 1

end AsksOnce

theorem asked_after (e : Enablement) (run : List Moment) :
    (e.after run).asked = e.asked ++ (e.record run).flatMap Entry.reads := by
  induction run generalizing e with
  | nil => exact (List.append_nil _).symm
  | cons m run ih =>
    change ((e.next m).after run).asked = _
    rw [ih, (e.reads_next m).asked, record, List.flatMap_cons, List.append_assoc]

theorem moment_record (e : Enablement) (run : List Moment) : (e.record run).map Entry.moment = run := by
  induction run generalizing e with
  | nil => rfl
  | cons m run ih => rw [record, List.map_cons, ih]; rfl

def firstAsked? (name : String) (run : List Moment) : Option Nat :=
  (record {} run).findIdx? (name ∈ ·.reads)

theorem nodup_reads (run : List Moment) : ((record {} run).flatMap Entry.reads).Nodup := by
  have asked : (after {} run).asked = [] ++ _ := asked_after {} run
  rw [List.nil_append] at asked
  exact asked ▸ (asksOnce_start.after run).nodup

theorem firstAsked?_of_mem_reads {run : List Moment} {i : Nat} (hi : i < (record {} run).length) {name : String}
    (mem : name ∈ (record {} run)[i].reads) : firstAsked? name run = some i := by
  refine List.findIdx?_eq_some_iff_getElem.2 ⟨hi, by simpa using mem, fun j before again => ?_⟩
  obtain ⟨-, apart⟩ := List.nodup_flatMap.1 (nodup_reads run)
  exact List.pairwise_iff_getElem.1 apart j i (Nat.lt_trans before hi) hi before (by simpa using again) mem

structure Entry.Matches (entry : Entry) (m : Moment) : Prop where
  given : m.given = entry.moment.given
  agree : ∀ name ∈ entry.reads, m.host.environment name = entry.moment.host.environment name

theorem record_of_matches {e : Enablement} {run other : List Moment}
    (same : List.Forall₂ Entry.Matches (e.record run) other) :
    (e.record other).map Entry.answer = (e.record run).map Entry.answer ∧
      (e.record other).map Entry.reads = (e.record run).map Entry.reads := by
  induction run generalizing e other with
  | nil =>
    obtain rfl := List.forall₂_nil_left_iff.1 same
    exact ⟨rfl, rfl⟩
  | cons m run ih =>
    obtain ⟨n, rest, head, tail, rfl⟩ := List.forall₂_cons_left_iff.1 same
    -- Both runs are left in the same state, from which the rest is induction.
    have performed : e.perform n = e.perform m := e.perform_eq_of_agree head.given head.agree
    have next : e.next n = e.next m := congrArg Prod.snd performed
    obtain ⟨answers, reads⟩ := ih tail
    simp only [record, List.map_cons, entry, performed, next]
    exact ⟨congrArg _ answers, congrArg _ reads⟩

/-- The environments of two runs agree on a name at the call of the first run that asks for it first. -/
def AgreeAtFirst (name : String) (run other : List Moment) : Prop :=
  ∀ i ∈ firstAsked? name run, ∀ m ∈ run[i]?, ∀ n ∈ other[i]?, n.host.environment name = m.host.environment name

section Runs

variable {run other : List Moment}

theorem known_of_mem_record {entry : Entry} (mem : entry ∈ record {} run) {name : String} (asked : name ∈ entry.reads) :
    name = enableVariable ∨ name = forceDisableVariable := by
  refine (asksOnce_start.after run).known name ?_
  rw [asked_after]
  exact List.mem_append_right _ (List.mem_flatMap.2 ⟨entry, mem, asked⟩)

theorem matches_record (given : other.map Moment.given = run.map Moment.given)
    (agree : ∀ name, name = enableVariable ∨ name = forceDisableVariable → AgreeAtFirst name run other) :
    List.Forall₂ Entry.Matches (record {} run) other := by
  have moments := moment_record {} run
  have record_length : (record {} run).length = run.length := by rw [← moments, List.length_map, moments]
  have length_eq : other.length = run.length := by simpa using congrArg List.length given
  refine List.forall₂_iff_get.2 ⟨record_length.trans length_eq.symm, fun i hi hother => ?_⟩
  have hrun : i < run.length := record_length ▸ hi
  have moment : (record {} run)[i].moment = run[i] := by
    rw [← List.getElem_map Entry.moment]
    exact List.getElem_of_eq moments (by simpa using hi)
  have there : other[i].given = run[i].given := by
    rw [← List.getElem_map Moment.given, ← List.getElem_map Moment.given]
    exact List.getElem_of_eq given (by simpa using hother)
  refine ⟨there.trans (congrArg Moment.given moment.symm), fun name mem => ?_⟩
  have known := known_of_mem_record (List.getElem_mem hi) mem
  rw [List.get_eq_getElem, List.get_eq_getElem, moment]
  exact agree name known i (firstAsked?_of_mem_reads hi mem) _ (List.getElem?_eq_getElem hrun) _
    (List.getElem?_eq_getElem hother)

end Runs

/-- Of all the environments of a run only the value of each of two names counts that it has when first asked for it. -/
theorem environment_read_once (run : List Moment) :
    ((record {} run).flatMap Entry.reads).Nodup ∧
    (∀ entry ∈ record {} run, ∀ name ∈ entry.reads, name = enableVariable ∨ name = forceDisableVariable) ∧
    ∀ other : List Moment, other.map Moment.given = run.map Moment.given →
      AgreeAtFirst enableVariable run other → AgreeAtFirst forceDisableVariable run other →
      (record {} other).map Entry.answer = (record {} run).map Entry.answer ∧
        (record {} other).map Entry.reads = (record {} run).map Entry.reads := by
  refine ⟨nodup_reads run, fun entry mem name => known_of_mem_record mem, fun other given default forced => ?_⟩
  refine record_of_matches (matches_record given fun name known => ?_)
  obtain rfl | rfl := known
  · exact default
  · exact forced

/-- A validation that fails asks only for the default, and is made again by the value it got, whatever the environment
has by then. -/
theorem environment_read_once_retried :
    let capable : Capabilities := ⟨true, true, true⟩
    let on : Environment := .ofList [(enableVariable, "1")]
    let off : Environment := .ofList [(enableVariable, "0"), (forceDisableVariable, "1")]
    let run : List Moment := [⟨.isEnabled, {}, on⟩, ⟨.isEnabled, capable, on⟩, ⟨.setEnabled false, capable, on⟩]
    let other : List Moment :=
      [⟨.isEnabled, {}, off.set enableVariable "1"⟩, ⟨.isEnabled, capable, off.set forceDisableVariable none⟩,
        ⟨.setEnabled false, capable, off⟩]
    (record {} run).map Entry.reads = [[enableVariable], [forceDisableVariable], []] ∧
      (record {} other).map Entry.answer =
        [.enabled (.error .incapable), .enabled (.ok true), .previous (.ok true)] := by
  intro capable on off run other
  obtain ⟨-, -, same⟩ := environment_read_once run
  have default : AgreeAtFirst enableVariable run other := by
    have first : firstAsked? enableVariable run = some 0 := by decide
    have agree : off.set enableVariable "1" enableVariable = on enableVariable := by decide
    simpa [AgreeAtFirst, first, run, other] using agree
  have forced : AgreeAtFirst forceDisableVariable run other := by
    have first : firstAsked? forceDisableVariable run = some 1 := by decide
    have agree : off.set forceDisableVariable none forceDisableVariable = on forceDisableVariable := by decide
    simpa [AgreeAtFirst, first, run, other] using agree
  exact ⟨by rfl, (same other rfl default forced).1⟩

end FusionGuards.Enablement
