import FusionGuards.Fuser.Codec
import FusionGuards.Guard.Codec

/-! Every stored type but that of values is written well within the depth that a text is read to, and a value as far
as its own lists do not nest too deep. -/

namespace FusionGuards

namespace Json

mutual

def depth : Json → Nat
  | array es => depthAll es + 1
  | object ms => depthMembers ms + 1
  | _ => 0

def depthAll : List Json → Nat
  | [] => 0
  | j :: js => max (depth j) (depthAll js)

def depthMembers : List (Str × Json) → Nat
  | [] => 0
  | (_, j) :: ms => max (depth j) (depthMembers ms)

end

variable {n : Nat}

theorem depthAll_le_iff {js : List Json} : depthAll js ≤ n ↔ ∀ j ∈ js, j.depth ≤ n := by
  induction js with
  | nil => simp [depthAll]
  | cons j js ih => rw [depthAll, Nat.max_le, ih, List.forall_mem_cons]

theorem depthMembers_le_iff {ms : List (Str × Json)} : depthMembers ms ≤ n ↔ ∀ m ∈ ms, m.2.depth ≤ n := by
  induction ms with
  | nil => simp [depthMembers]
  | cons m ms ih => rw [depthMembers, Nat.max_le, ih, List.forall_mem_cons]

@[simp] theorem depth_bool (b : Bool) : depth (bool b) = 0 := by simp [depth]

@[simp] theorem depth_nat (k : Nat) : depth (nat k) = 0 := by simp [depth, nat]

@[simp] theorem depth_ofWord (a : Int64) : depth (ofWord a) = 0 := by simp [depth, ofWord, int]

@[simp] theorem depth_text (s : String) : depth (text s) = 0 := by simp [depth, text]

@[simp] theorem depth_record_le_iff {ms : List (String × Json)} :
    depth (record ms) ≤ n + 1 ↔ ∀ m ∈ ms, m.2.depth ≤ n := by
  rw [record, depth, Nat.add_le_add_iff_right, depthMembers_le_iff, List.forall_mem_map]

@[simp] theorem depth_ofList_le_iff {f : α → Json} {xs : List α} :
    depth (ofList f xs) ≤ n + 1 ↔ ∀ x ∈ xs, (f x).depth ≤ n := by
  rw [ofList, depth, Nat.add_le_add_iff_right, depthAll_le_iff, List.forall_mem_map]

@[simp] theorem depth_ofWords (xs : List Int64) : depth (ofWords xs) = 1 := by
  refine Nat.le_antisymm (by simp [ofWords]) ?_
  rw [ofWords, ofList, depth]
  omega

@[simp] theorem depth_ofOption_le_iff {f : α → Json} {o : Option α} :
    depth (ofOption f o) ≤ n ↔ ∀ a ∈ o, (f a).depth ≤ n := by
  cases o <;> simp [ofOption, depth]

end Json

open Json

theorem Device.depth_toJson_le (d : Device) : d.toJson.depth ≤ 1 := by
  cases d <;> simp [toJson]

theorem ElementType.depth_toJson (t : ElementType) : t.toJson.depth = 0 := depth_text _

theorem StrideSlot.depth_toJson_le (s : StrideSlot) : s.toJson.depth ≤ 1 := by
  obtain ⟨index, contiguous⟩ := s
  cases index <;> simp [toJson, ofOption, depth]

theorem Signature.depth_toJson_le (s : Signature) : s.toJson.depth ≤ 3 := by
  have device (d : Device) : d.toJson.depth ≤ 2 := Nat.le_trans d.depth_toJson_le (by decide)
  simp [toJson, ElementType.depth_toJson, device, StrideSlot.depth_toJson_le]

theorem TensorParts.depth_toJson_le (p : TensorParts) : p.toJson.depth ≤ 2 := by
  simp [toJson, ElementType.depth_toJson, Device.depth_toJson_le]

theorem AxisRule.depth_toJson_le (r : AxisRule) : r.toJson.depth ≤ 1 := by
  cases r <;> simp [toJson]

theorem ViewConstraint.depth_toJson_le (c : ViewConstraint) : c.toJson.depth ≤ 3 := by
  simp [toJson, AxisRule.depth_toJson_le]

theorem Guard.depth_toJson_le (g : Guard) : g.toJson.depth ≤ 6 := by
  have constraint (c : ViewConstraint) : c.toJson.depth ≤ 4 := Nat.le_trans c.depth_toJson_le (by decide)
  cases g <;> simp [toJson, Signature.depth_toJson_le, constraint]

theorem Binding.depth_toJson_le (b : Binding) : b.toJson.depth ≤ 7 := by
  simp [toJson, Guard.depth_toJson_le]

theorem Chain.depth_toJson_le (c : Chain) : c.toJson.depth ≤ 9 := by
  simp [toJson, Binding.depth_toJson_le]

theorem Config.depth_toJson_le (c : Config) : c.toJson.depth ≤ 1 := by simp [toJson]

theorem Group.depth_toJson_le (g : Group) : g.toJson.depth ≤ 1 := by simp [toJson]

theorem Tensor.depth_toJson (t : Tensor) : t.toJson.depth = 2 := by
  refine Nat.le_antisymm t.toParts.depth_toJson_le ?_
  rw [toJson, TensorParts.toJson, record, depth, List.map_cons, depthMembers, depth_ofWords]
  omega

namespace Value

mutual

def doubles : Value → List Double
  | double d => [d]
  | list xs => doublesAll xs
  | _ => []

def doublesAll : List Value → List Double
  | [] => []
  | v :: vs => doubles v ++ doublesAll vs

end

variable {number : Double → Json}

mutual

theorem nesting_toJson : ∀ {v : Value}, v.doubles = [] → nesting (v.toJson number) = (v.toJson number).depth
  | none, _ => by simp [toJson, nesting, text, depth]
  | bool b, _ => by simp [toJson, nesting, record, depth, depthMembers]
  | int i, _ => by simp [toJson, nesting, record, ofWord, Json.int, depth, depthMembers]
  | double d, exact => by simp [doubles] at exact
  | str s, _ => by simp [toJson, nesting, record, text, depth, depthMembers]
  | intList xs, _ => by
    have flat : depthAll (xs.map ofWord) = 0 := by simpa [ofWords, ofList, depth] using depth_ofWords xs
    simp [toJson, nesting, record, ofWords, ofList, depthMembers, depth, flat]
  | list xs, exact => by simp [toJson, nesting, record, depth, depthMembers, nestingAll_toJsonAll exact]
  | tensor t, _ => by simp [toJson, nesting, record, depth, depthMembers, t.depth_toJson]

theorem nestingAll_toJsonAll : ∀ {vs : List Value}, doublesAll vs = [] →
    nestingAll (toJsonAll number vs) = depthAll (toJsonAll number vs)
  | [], _ => rfl
  | v :: vs, exact => by
    obtain ⟨head, rest⟩ := List.append_eq_nil_iff.1 exact
    rw [toJsonAll, nestingAll, depthAll, nesting_toJson head, nestingAll_toJsonAll rest]

end

end Value

end FusionGuards
