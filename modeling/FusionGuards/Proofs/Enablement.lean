import FusionGuards.Fuser.Enablement
import Mathlib.Tactic.SplitIfs

namespace FusionGuards.Enablement

/-- What becomes of a value that is asked for by a name: nothing, or it is learned and was not known before. -/
def Learns (name : String) (value : α) (names : List String) (before after : Option α) : Prop :=
  after = before ∧ names.count name = 0 ∨ before = none ∧ after = some value ∧ names.count name = 1

theorem Learns.trans {name : String} {value : α} {names others : List String} {before between after : Option α}
    (first : Learns name value names before between) (second : Learns name value others between after) :
    Learns name value (names ++ others) before after := by
  obtain ⟨rfl, none_read⟩ | ⟨rfl, rfl, once⟩ := first
  · obtain ⟨rfl, none_more⟩ | ⟨rfl, rfl, once⟩ := second
    · exact .inl ⟨rfl, by simp [none_read, none_more]⟩
    · exact .inr ⟨rfl, rfl, by simp [none_read, once]⟩
  · obtain ⟨rfl, none_more⟩ | ⟨unknown, -, -⟩ := second
    · exact .inr ⟨rfl, rfl, by simp [once, none_more]⟩
    · cases unknown

/-- One state comes from another by asking the environment for the given names, apart from what is assigned and
validated. -/
structure Reads (env : Environment) (names : List String) (e after : Enablement) : Prop where
  asked : after.asked = e.asked ++ names
  default : Learns enableVariable ((env enableVariable).map Switch.enables) names e.default? after.default?
  forced : Learns forceDisableVariable ((env forceDisableVariable).any Switch.forces) names e.forced? after.forced?

theorem Reads.refl (env : Environment) (e : Enablement) : Reads env [] e e where
  asked := (List.append_nil _).symm
  default := .inl ⟨rfl, rfl⟩
  forced := .inl ⟨rfl, rfl⟩

theorem Reads.trans {env : Environment} {names others : List String} {e between after : Enablement}
    (first : Reads env names e between) (second : Reads env others between after) :
    Reads env (names ++ others) e after where
  asked := by rw [second.asked, first.asked, List.append_assoc]
  default := first.default.trans second.default
  forced := first.forced.trans second.forced

section Sources

variable (e : Enablement) (env : Environment)

def defaultAt : Option Bool := e.default?.getD ((env enableVariable).map Switch.enables)

def forcedAt : Bool := e.forced?.getD ((env forceDisableVariable).any Switch.forces)

def withDefault : Enablement where
  assigned := e.assigned
  validated := e.validated
  default? := some (e.defaultAt env)
  forced? := e.forced?
  asked := e.asked ++ if e.default? = none then [enableVariable] else []

def withForced : Enablement where
  assigned := e.assigned
  validated := e.validated
  default? := e.default?
  forced? := some (e.forcedAt env)
  asked := e.asked ++ if e.forced? = none then [forceDisableVariable] else []

theorem value_readDefault : (e.readDefault env).value = (e.defaultAt env, e.withDefault env) := by
  obtain ⟨assigned, validated, known, forced, asked⟩ := e
  cases known <;> simp [readDefault, defaultAt, withDefault]

theorem value_readForced : (e.readForced env).value = (e.forcedAt env, e.withForced env) := by
  obtain ⟨assigned, validated, default, known, asked⟩ := e
  cases known <;> simp [readForced, forcedAt, withForced]

@[simp] theorem assigned_withDefault : (e.withDefault env).assigned = e.assigned := rfl

@[simp] theorem validated_withDefault : (e.withDefault env).validated = e.validated := rfl

@[simp] theorem assigned_withForced : (e.withForced env).assigned = e.assigned := rfl

@[simp] theorem validated_withForced : (e.withForced env).validated = e.validated := rfl

@[simp] theorem defaultAt_withForced : (e.withForced env).defaultAt env = e.defaultAt env := rfl

theorem reads_withDefault : ∃ names, Reads env names e (e.withDefault env) := by
  refine ⟨_, rfl, ?_, .inl ⟨rfl, ?_⟩⟩
  · cases h : e.default? <;> simp [Learns, withDefault, defaultAt, h]
  · split <;> rfl

theorem reads_withForced : ∃ names, Reads env names e (e.withForced env) := by
  refine ⟨_, rfl, .inl ⟨rfl, ?_⟩, ?_⟩
  · split <;> rfl
  · cases h : e.forced? <;> simp [Learns, withForced, forcedAt, h]

end Sources

section Calls

variable (e : Enablement) (host : Host)

/-- The environment asks for a fuser that the host cannot run, and nothing has overruled it yet. -/
def Refuses : Prop :=
  e.validated = false ∧ e.assigned = none ∧ e.defaultAt host.environment = some true ∧
    host.capabilities.suffice = false

instance : Decidable (e.Refuses host) := inferInstanceAs (Decidable (_ ∧ _))

def confirmed : Enablement :=
  { (if e.validated ∨ e.assigned.isSome then e else e.withDefault host.environment) with validated := true }

theorem value_assertCapable (capabilities : Capabilities) (wish : Option Bool) :
    (assertCapable capabilities (wish.getD false)).run.value =
      if wish = some true ∧ capabilities.suffice = false then .error .incapable else .ok () := by
  rw [assertCapable]
  rcases wish with _ | _ | _ <;> cases capabilities.suffice <;> rfl

theorem value_validate : (e.validate host).value =
    if e.Refuses host then (.error .incapable, e.withDefault host.environment) else (.ok (), e.confirmed host) := by
  cases validated : e.validated with
  | true =>
    have same : { e with validated := true } = e := by rw [← validated]
    simp [validate, Refuses, confirmed, validated, same]
  | false =>
    cases assigned : e.assigned with
    | some value => simp [validate, Refuses, confirmed, validated, assigned]
    | none =>
      simp only [validate, validated, assigned, Bool.false_eq_true, ↓reduceIte, Option.isSome_none,
        Report.value_bind, value_readDefault, value_assertCapable]
      by_cases wished : e.defaultAt host.environment = some true ∧ host.capabilities.suffice = false
      · rw [if_pos (show e.Refuses host from ⟨validated, assigned, wished⟩), if_pos wished]
        rfl
      · rw [if_neg fun refused : e.Refuses host => wished refused.2.2, if_neg wished]
        simp [confirmed, validated, assigned]

/-- What a query answers: refusal comes first, then force-disable, the assigned value, the default of the environment
and the capabilities. -/
def resolve : Except FuserError Bool :=
  if e.Refuses host then .error .incapable
  else if e.forcedAt host.environment then .ok false
  else .ok (e.assigned.getD ((e.defaultAt host.environment).getD host.capabilities.suffice))

def resolved : Enablement :=
  if e.Refuses host then e.withDefault host.environment
  else
    let known := (e.confirmed host).withForced host.environment
    if e.forcedAt host.environment ∨ e.assigned.isSome then known else known.withDefault host.environment

@[simp] theorem assigned_confirmed : (e.confirmed host).assigned = e.assigned := by
  rw [confirmed]
  split <;> rfl

@[simp] theorem forcedAt_confirmed (env : Environment) : (e.confirmed host).forcedAt env = e.forcedAt env := by
  rw [confirmed]
  split <;> rfl

@[simp] theorem defaultAt_confirmed :
    (e.confirmed host).defaultAt host.environment = e.defaultAt host.environment := by
  rw [confirmed]
  split <;> rfl

theorem value_isEnabled : (e.isEnabled host).value = (e.resolve host, e.resolved host) := by
  simp only [isEnabled, Report.value_bind, value_validate, resolve, resolved]
  by_cases refused : e.Refuses host
  · simp only [refused, ↓reduceIte]
    rfl
  · simp only [refused, ↓reduceIte, Report.value_bind, value_readForced, forcedAt_confirmed]
    by_cases forced : e.forcedAt host.environment = true
    · simp [forced]
    · cases assigned : e.assigned <;> simp [forced, assigned, value_readDefault]

theorem resolve_of_refuses (refused : e.Refuses host) : e.resolve host = .error .incapable := if_pos refused

theorem exists_resolve_eq_ok (accepted : ¬e.Refuses host) : ∃ b, e.resolve host = .ok b := by
  rw [resolve, if_neg accepted]
  split <;> exact ⟨_, rfl⟩

theorem refuses_of_resolve_eq_error {err : FuserError} (h : e.resolve host = .error err) : e.Refuses host := by
  by_cases refused : e.Refuses host
  · exact refused
  · obtain ⟨b, answer⟩ := e.exists_resolve_eq_ok host refused
    rw [answer] at h
    cases h

theorem value_setEnabled (enabled : Bool) : (e.setEnabled host enabled).value =
    if enabled = true ∧ host.capabilities.suffice = false then (.error .incapable, e)
    else (.ok ((e.resolve host).toOption.getD false), { e.resolved host with assigned := some enabled }) := by
  have capable := value_assertCapable host.capabilities (some enabled)
  simp only [Option.getD_some, Option.some.injEq] at capable
  by_cases incapable : enabled = true ∧ host.capabilities.suffice = false
  · simp only [setEnabled, Report.value_bind, capable, if_pos incapable]
    rfl
  · simp only [setEnabled, Report.value_bind, capable, if_neg incapable, value_isEnabled]
    cases answer : e.resolve host with
    | ok previous => rfl
    | error err =>
      -- Only a fuser that the host cannot run is refused, and that one is not being turned on.
      have off : enabled = false := by
        simpa [(e.refuses_of_resolve_eq_error host answer).2.2.2] using incapable
      rw [off]
      rfl

variable {e host}

@[simp] theorem assigned_resolved : (e.resolved host).assigned = e.assigned := by
  simp only [resolved]
  split_ifs <;> simp [withDefault]

theorem validated_resolved_iff : (e.resolved host).validated = true ↔ ¬e.Refuses host := by
  by_cases refused : e.Refuses host
  · simp [resolved, refused, withDefault, refused.1]
  · simp only [resolved, refused, ↓reduceIte, not_false_eq_true, iff_true]
    split_ifs <;> rfl

theorem forced?_resolved (accepted : ¬e.Refuses host) :
    (e.resolved host).forced? = some (e.forcedAt host.environment) := by
  simp only [resolved, accepted, ↓reduceIte]
  split_ifs <;> simp [withForced, withDefault]

theorem default?_resolved (unassigned : e.assigned = none)
    (unforced : ¬e.Refuses host → e.forcedAt host.environment = false) :
    (e.resolved host).default? = some (e.defaultAt host.environment) := by
  by_cases refused : e.Refuses host
  · rw [resolved, if_pos refused]
    rfl
  · simp [resolved, refused, unassigned, unforced refused, withDefault]

variable (e host)

theorem reads_confirmed : ∃ names, Reads host.environment names e (e.confirmed host) := by
  rw [confirmed]
  split
  · have kept := Reads.refl host.environment e
    exact ⟨[], kept.asked, kept.default, kept.forced⟩
  · obtain ⟨names, asked, default, forced⟩ := e.reads_withDefault host.environment
    exact ⟨names, asked, default, forced⟩

theorem reads_resolved : ∃ names, Reads host.environment names e (e.resolved host) := by
  simp only [resolved]
  obtain ⟨validation, first⟩ := e.reads_confirmed host
  obtain ⟨flag, second⟩ := (e.confirmed host).reads_withForced host.environment
  obtain ⟨default, third⟩ := ((e.confirmed host).withForced host.environment).reads_withDefault host.environment
  split_ifs
  · exact e.reads_withDefault host.environment
  · exact ⟨_, first.trans second⟩
  · exact ⟨_, (first.trans second).trans third⟩

end Calls

end FusionGuards.Enablement
