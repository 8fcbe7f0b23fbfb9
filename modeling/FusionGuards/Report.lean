import FusionGuards.Event

namespace FusionGuards

/-- What a computation adds to the metrics. Counters of 64 bits wrap at `2 ^ 64`; these do not, and the wrap is left
out. -/
structure Tally where
  passed : Nat := 0
  failed : Nat := 0
  bypassed : Nat := 0
  fallbacks : Nat := 0
  specialized : Nat := 0
  deriving DecidableEq, Repr

instance : Add Tally where
  add s t := ⟨s.passed + t.passed, s.failed + t.failed, s.bypassed + t.bypassed,
    s.fallbacks + t.fallbacks, s.specialized + t.specialized⟩

instance : Zero Tally where
  zero := {}

namespace Tally

theorem ext {s t : Tally} (hp : s.passed = t.passed) (hf : s.failed = t.failed)
    (hb : s.bypassed = t.bypassed) (hk : s.fallbacks = t.fallbacks)
    (hs : s.specialized = t.specialized) : s = t := by
  cases s; cases t; simp_all

theorem add_def (s t : Tally) : s + t = ⟨s.passed + t.passed, s.failed + t.failed,
    s.bypassed + t.bypassed, s.fallbacks + t.fallbacks, s.specialized + t.specialized⟩ := rfl

theorem zero_def : (0 : Tally) = ⟨0, 0, 0, 0, 0⟩ := rfl

@[simp] theorem add_zero (t : Tally) : t + 0 = t := rfl

@[simp] theorem zero_add (t : Tally) : 0 + t = t := by
  simp [add_def, zero_def]

theorem add_assoc (s t u : Tally) : s + t + u = s + (t + u) := by
  simp [add_def, Nat.add_assoc]

end Tally

structure Report (α : Type) where
  value : α
  events : List Event := []
  tally : Tally := 0

namespace Report

def bind (r : Report α) (f : α → Report β) : Report β :=
  let s := f r.value
  ⟨s.value, r.events ++ s.events, r.tally + s.tally⟩

instance : Monad Report where
  pure a := { value := a }
  bind := bind

def emit (e : Event) : Report Unit := { value := (), events := [e] }

def count (t : Tally) : Report Unit := { value := (), tally := t }

@[simp] theorem value_pure (a : α) : (pure a : Report α).value = a := rfl

@[simp] theorem events_pure (a : α) : (pure a : Report α).events = [] := rfl

@[simp] theorem tally_pure (a : α) : (pure a : Report α).tally = 0 := rfl

@[simp] theorem value_bind (r : Report α) (f : α → Report β) :
    (r >>= f).value = (f r.value).value := rfl

@[simp] theorem events_bind (r : Report α) (f : α → Report β) :
    (r >>= f).events = r.events ++ (f r.value).events := rfl

@[simp] theorem tally_bind (r : Report α) (f : α → Report β) :
    (r >>= f).tally = r.tally + (f r.value).tally := rfl

@[simp] theorem value_map (f : α → β) (r : Report α) : (f <$> r).value = f r.value := rfl

@[simp] theorem value_emit (e : Event) : (emit e).value = () := rfl

@[simp] theorem events_emit (e : Event) : (emit e).events = [e] := rfl

@[simp] theorem tally_emit (e : Event) : (emit e).tally = 0 := rfl

@[simp] theorem pure_bind (a : α) (f : α → Report β) : (pure a : Report α) >>= f = f a := by
  change Report.mk (f a).value ([] ++ (f a).events) (0 + (f a).tally) = f a
  simp

theorem bind_pure (r : Report α) : (r >>= pure) = r := by
  change Report.mk r.value (r.events ++ []) (r.tally + 0) = r
  simp

theorem bind_assoc (r : Report α) (f : α → Report β) (g : β → Report γ) :
    (r >>= f) >>= g = r >>= fun a => f a >>= g := by
  change Report.mk ((f r.value >>= g).value) ((r.events ++ _) ++ _) ((r.tally + _) + _) =
    Report.mk _ (r.events ++ (_ ++ _)) (r.tally + (_ + _))
  rw [List.append_assoc, Tally.add_assoc]
  rfl

theorem bind_congr_value {r : Report α} {f g : α → Report β} (same : f r.value = g r.value) :
    r >>= f = r >>= g := by
  change Report.mk (f r.value).value (r.events ++ (f r.value).events) (r.tally + (f r.value).tally) = _
  rw [same]
  rfl

instance : LawfulMonad Report :=
  LawfulMonad.mk' Report (fun r => bind_pure r) (fun a f => pure_bind a f)
    (fun r f g => bind_assoc r f g)

end Report

/-- A computation that may fail. What it reported before it failed stays reported. -/
abbrev Attempt (ε : Type) := ExceptT ε Report

namespace Attempt

def answer (a : α) (e : Event) : Attempt ε α := do
  Report.emit e
  return a

def ofExcept : Except ε α → Attempt ε α
  | .ok a => pure a
  | .error e => throw e

@[simp] theorem run_answer (a : α) (e : Event) :
    (answer a e : Attempt ε α).run = { value := .ok a, events := [e] } := rfl

@[simp] theorem run_ofExcept (x : Except ε α) : (ofExcept x).run = pure x := by
  cases x <;> rfl

end Attempt

end FusionGuards
