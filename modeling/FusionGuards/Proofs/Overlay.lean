import FusionGuards.Fuser.Config
import Mathlib.Logic.Function.Defs

namespace FusionGuards

namespace Environment

def toggle? (e : Environment) (name : String) : Option Bool := (e name).bind Switch.toggle?

/-- Each variable as the second environment has it if it holds a switch word there, and else as the first has it. -/
def merge (e₁ e₂ : Environment) : Environment := fun name => if (e₂.toggle? name).isSome then e₂ name else e₁ name

variable {e e₁ e₂ : Environment} {name other : String}

theorem toggle?_merge : (e₁.merge e₂).toggle? name = (e₂.toggle? name).or (e₁.toggle? name) := by
  rw [toggle?, merge]
  cases h : e₂.toggle? name with
  | none => rfl
  | some b => simpa [toggle?] using h

theorem toggle?_set_of_ne (h : other ≠ name) (value : Option String) :
    (e.set name value).toggle? other = e.toggle? other := by
  rw [toggle?, set, if_neg h, toggle?]

theorem toggle?_set_self (value : Option String) : (e.set name value).toggle? name = value.bind Switch.toggle? := by
  rw [toggle?, set, if_pos rfl]

end Environment

inductive Setting
  | singletonFusion
  | horizontalFusion
  | guardMode
  deriving DecidableEq

namespace Setting

def variableName : Setting → String
  | singletonFusion => Config.singletonVariable
  | horizontalFusion => Config.horizontalVariable
  | guardMode => Config.guardModeVariable

theorem variableName_injective : Function.Injective variableName := by
  intro s t same
  revert same
  cases s <;> cases t <;> decide

end Setting

namespace Config

def get (c : Config) : Setting → Bool
  | .singletonFusion => c.singletonFusion
  | .horizontalFusion => c.horizontalFusion
  | .guardMode => c.guardMode

def set (c : Config) (value : Bool) : Setting → Config
  | .singletonFusion => { c with singletonFusion := value }
  | .horizontalFusion => { c with horizontalFusion := value }
  | .guardMode => { c with guardMode := value }

variable {c d : Config} {e e₁ e₂ : Environment} {s t : Setting}

theorem ext_get (h : ∀ s, c.get s = d.get s) : c = d := by
  obtain ⟨singleton, horizontal, mode⟩ := c
  obtain rfl : singleton = d.singletonFusion := h .singletonFusion
  obtain rfl : horizontal = d.horizontalFusion := h .horizontalFusion
  obtain rfl : mode = d.guardMode := h .guardMode
  rfl

theorem get_set (c : Config) (value : Bool) (s t : Setting) :
    (c.set value s).get t = if t = s then value else c.get t := by
  cases s <;> cases t <;> rfl

def take (e : Environment) (c : Config) (s : Setting) : Config :=
  match e.toggle? s.variableName with
  | some value => c.set value s
  | none => c

theorem get_take : (take e c s).get t = if t = s then (e.toggle? s.variableName).getD (c.get s) else c.get t := by
  rw [take]
  cases e.toggle? s.variableName with
  | none => grind
  | some value => exact get_set c value s t

theorem get_foldl_take (settings : List Setting) : (settings.foldl (take e) c).get t =
    if t ∈ settings then (e.toggle? t.variableName).getD (c.get t) else c.get t := by
  induction settings generalizing c with
  | nil => rfl
  | cons s settings ih =>
    rw [List.foldl_cons, ih, get_take]
    by_cases same : t = s
    · subst same
      cases e.toggle? t.variableName <;> simp
    · simp [same]

theorem value_overlaySetting (name : String) (current : Bool) :
    (overlaySetting e name current).value = (e.toggle? name).getD current := by
  rw [overlaySetting, Environment.toggle?]
  cases e name with
  | none => rfl
  | some raw =>
    rw [Option.bind_some]
    cases h : Switch.toggle? raw <;> simp [h]

theorem get_overlay (c : Config) (e : Environment) (s : Setting) :
    (c.overlay e).value.get s = (e.toggle? s.variableName).getD (c.get s) := by
  cases s <;> exact value_overlaySetting ..

theorem get_overlay_set_of_ne {name : String} (h : s.variableName ≠ name) (value : Option String) :
    (c.overlay (e.set name value)).value.get s = (c.overlay e).value.get s := by
  rw [get_overlay, get_overlay, Environment.toggle?_set_of_ne h]

theorem overlay_congr (h : ∀ s : Setting, e₁.toggle? s.variableName = e₂.toggle? s.variableName) :
    (c.overlay e₁).value = (c.overlay e₂).value :=
  ext_get fun s => by rw [get_overlay, get_overlay, h]

theorem overlay_overlay (c : Config) (e₁ e₂ : Environment) :
    ((c.overlay e₁).value.overlay e₂).value = (c.overlay (e₁.merge e₂)).value := by
  refine ext_get fun s => ?_
  rw [get_overlay, get_overlay, get_overlay, Environment.toggle?_merge]
  cases e₂.toggle? s.variableName <;> rfl

/-- An overlay takes each setting from its own variable alone, and a later environment goes before an earlier one
where it holds a switch word. -/
theorem overlay_biased (c : Config) (e₁ e₂ : Environment) :
    (c.overlay e₁).value =
      ⟨(e₁.toggle? singletonVariable).getD c.singletonFusion, (e₁.toggle? horizontalVariable).getD c.horizontalFusion,
        (e₁.toggle? guardModeVariable).getD c.guardMode⟩ ∧
    (∀ settings : List Setting, (∀ s, s ∈ settings) → settings.foldl (take e₁) c = (c.overlay e₁).value) ∧
    (∀ (s t : Setting) value, s ≠ t →
      (c.overlay (e₁.set t.variableName value)).value.get s = (c.overlay e₁).value.get s) ∧
    (∀ name value, (∀ s : Setting, s.variableName ≠ name) →
      (c.overlay (e₁.set name value)).value = (c.overlay e₁).value) ∧
    (∀ name raw, Switch.toggle? raw = none →
      (c.overlay (e₁.set name (some raw))).value = (c.overlay (e₁.set name none)).value) ∧
    ((c.overlay e₁).value.overlay e₁).value = (c.overlay e₁).value ∧
    ((c.overlay e₁).value.overlay e₂).value = (c.overlay (e₁.merge e₂)).value := by
  refine ⟨ext_get fun s => ?own, fun settings all => ext_get fun s => ?ordered, fun s t value differ => ?apart,
    fun name value unknown => ?unknown, fun name raw unread => ?unread, ext_get fun s => ?again,
    overlay_overlay c e₁ e₂⟩
  case own =>
    rw [get_overlay]
    cases s <;> rfl
  case ordered => rw [get_foldl_take, if_pos (all s), get_overlay]
  case apart => exact get_overlay_set_of_ne (Setting.variableName_injective.ne differ) value
  case unknown => exact ext_get fun s => get_overlay_set_of_ne (unknown s) value
  case unread =>
    refine overlay_congr fun s => ?_
    by_cases own : s.variableName = name
    · rw [own, Environment.toggle?_set_self, Environment.toggle?_set_self, Option.bind_some, unread, Option.bind_none]
    · rw [Environment.toggle?_set_of_ne own, Environment.toggle?_set_of_ne own]
  case again =>
    rw [get_overlay, get_overlay]
    cases e₁.toggle? s.variableName <;> rfl

theorem overlay_biased_unread :
    let e₁ := Environment.ofList [(singletonVariable, "1"), (guardModeVariable, " Off ")]
    let e₂ := Environment.ofList [(singletonVariable, "no"), (guardModeVariable, "sideways")]
    Switch.toggle? "sideways" = none ∧
      (overlay {} (e₁.set horizontalVariable (some "sideways"))).value =
        (overlay {} (e₁.set horizontalVariable none)).value ∧
      ((overlay {} e₁).value.overlay e₂).value = (overlay {} (e₁.merge e₂)).value ∧
      (overlay {} (e₁.merge e₂)).value = ⟨false, true, false⟩ := by
  intro e₁ e₂
  obtain ⟨-, -, -, -, unread, -, merged⟩ := overlay_biased {} e₁ e₂
  obtain ⟨own, -⟩ := overlay_biased {} (e₁.merge e₂) e₂
  have garbled : Switch.toggle? "sideways" = none := by decide
  exact ⟨garbled, unread _ _ garbled, merged, own.trans (by decide)⟩

end Config

end FusionGuards
