import FusionGuards.Proofs.Construction
import FusionGuards.Proofs.Fields
import FusionGuards.Proofs.Nesting
import FusionGuards.Proofs.Rendering
import Mathlib.Tactic.MkIffOfInductiveProp

namespace FusionGuards

open Json

namespace ElementType

@[simp] theorem ofJson?_toJson (t : ElementType) : ofJson? t.toJson = some t := by
  simp [ofJson?, toJson, isBare]

@[simp] theorem toJson_ne_null (t : ElementType) : t.toJson ≠ .null := by simp [toJson, text]

@[simp] theorem whole_toJson (t : ElementType) : t.toJson.Whole := by simp [toJson]

end ElementType

namespace Device

@[simp] theorem ofJson?_toJson (d : Device) : ofJson? d.toJson = some d := by
  cases d with
  | cpu => rfl
  | cuda index =>
    have read := toNat?_nat UInt16.size index.toNat
    rw [if_pos index.toNat_lt_size] at read
    simp [ofJson?, toJson, read]

@[simp] theorem toJson_ne_null (d : Device) : d.toJson ≠ .null := by
  cases d <;> simp [toJson, text, record]

@[simp] theorem whole_toJson (d : Device) : d.toJson.Whole := by
  cases d <;> simp [toJson]

end Device

namespace StrideSlot

def Indexed (s : StrideSlot) : Prop := ∀ i ∈ s.index, i < indexBound

@[simp] theorem ofJson?_toJson_iff (s : StrideSlot) : ofJson? s.toJson = some s ↔ s.Indexed := by
  obtain ⟨index, contiguous⟩ := s
  simp [ofJson?, toJson, Option.bind_eq_some_iff, Indexed]

@[simp] theorem whole_toJson (s : StrideSlot) : s.toJson.Whole := by simp [toJson]

end StrideSlot

namespace Signature

/-- The numbers that a signature holds for its dimensions are words. -/
@[mk_iff]
structure Indexed (s : Signature) : Prop where
  rank : ∀ r ∈ s.rank, r < indexBound
  slots : ∀ slot ∈ s.slots, slot.Indexed

@[simp] theorem ofJson?_toJson_iff (s : Signature) : ofJson? s.toJson = some s ↔ s.Indexed := by
  obtain ⟨rank, elementType, device, requiresGrad, sizes, slots⟩ := s
  simp [ofJson?, toJson, keys, Option.bind_eq_some_iff, indexed_iff]

@[simp] theorem whole_toJson (s : Signature) : s.toJson.Whole := by simp [toJson]

end Signature

namespace TensorParts

@[simp] theorem ofJson?_toJson (p : TensorParts) : ofJson? p.toJson = some p := by
  obtain ⟨sizes, strides, elementType, device, requiresGrad⟩ := p
  simp [ofJson?, toJson, keys, Option.bind_eq_some_iff]

end TensorParts

namespace Tensor

@[simp] theorem ofJson?_toJson (t : Tensor) : ofJson? t.toJson = some t := by
  rw [ofJson?, toJson, TensorParts.ofJson?_toJson]
  simp [toTensor_toParts, Except.toOption]

@[simp] theorem whole_toJson (t : Tensor) : t.toJson.Whole := by simp [toJson, TensorParts.toJson]

end Tensor

namespace Value

section Doubles

variable {number : Double → Json}

mutual

theorem ofJson?_toJson_iff : ∀ v : Value,
    ofJson? (v.toJson number) = some v ↔ ∀ d ∈ v.doubles, Double.ofJson? (number d) = some d
  | none => by simp [toJson, text, ofJson?, doubles]
  | bool b => by simp [toJson, record, ofJson?, ofContent?, doubles]
  | int i => by simp [toJson, record, ofJson?, ofContent?, doubles]
  | double d => by simp [toJson, record, ofJson?, ofContent?, doubles]
  | str s => by simp [toJson, record, text, ofJson?, ofContent?, doubles]
  | intList xs => by simp [toJson, record, ofJson?, ofContent?, doubles]
  | list xs => by simp [toJson, record, ofJson?, ofJsonAll?_toJsonAll_iff xs, doubles]
  | tensor t => by simp [toJson, record, ofJson?, ofContent?, doubles]

theorem ofJsonAll?_toJsonAll_iff : ∀ vs : List Value,
    ofJsonAll? (toJsonAll number vs) = some vs ↔ ∀ d ∈ doublesAll vs, Double.ofJson? (number d) = some d
  | [] => by simp [toJsonAll, ofJsonAll?, doublesAll]
  | v :: vs => by
    have head := ofJson?_toJson_iff v
    have rest := ofJsonAll?_toJsonAll_iff vs
    simp [toJsonAll, ofJsonAll?, Option.bind_eq_some_iff, doublesAll, head, rest, or_imp, forall_and]

end

mutual

theorem whole_toJson : ∀ {v : Value}, v.doubles = [] → (v.toJson number).Whole
  | none, _ => by simp [toJson]
  | bool b, _ => by simp [toJson]
  | int i, _ => by simp [toJson]
  | double d, exact => by simp [doubles] at exact
  | str s, _ => by simp [toJson]
  | intList xs, _ => by simp [toJson]
  | list xs, exact => by simp [toJson, Json.Whole, wholeAll_toJsonAll exact]
  | tensor t, _ => by simp [toJson]

theorem wholeAll_toJsonAll : ∀ {vs : List Value}, doublesAll vs = [] → WholeAll (toJsonAll number vs)
  | [], _ => by simp [toJsonAll, WholeAll]
  | v :: vs, exact => by
    obtain ⟨head, rest⟩ := List.append_eq_nil_iff.1 exact
    exact ⟨whole_toJson head, wholeAll_toJsonAll rest⟩

end

theorem ofJson?_toJson {v : Value} (exact : v.doubles = []) : ofJson? (v.toJson number) = some v := by
  simp [ofJson?_toJson_iff, exact]

theorem read_render_toJson {v : Value} (exact : v.doubles = []) :
    read (v.toJson number).render = if (v.toJson number).depth ≤ depthLimit then some v else .none := by
  rw [read, read_render (whole_toJson exact), ← nesting_toJson exact]
  simp [ofJson?_toJson exact]

end Doubles

end Value

namespace AxisRule

@[simp] theorem ofJson?_toJson (r : AxisRule) : ofJson? r.toJson = some r := by
  cases r with
  | fixed size => simp [ofJson?, toJson]
  | dynamic => rfl

@[simp] theorem whole_toJson (r : AxisRule) : r.toJson.Whole := by
  cases r <;> simp [toJson]

end AxisRule

namespace ViewConstraint

@[simp] theorem ofJson?_toJson (c : ViewConstraint) : ofJson? c.toJson = some c := by
  obtain ⟨tensor, view⟩ := c
  simp [ofJson?, toJson, Option.bind_eq_some_iff]

@[simp] theorem whole_toJson (c : ViewConstraint) : c.toJson.Whole := by simp [toJson]

end ViewConstraint

namespace Guard

def Indexed : Guard → Prop
  | tensor signatures => ∀ s ∈ signatures, s.Indexed
  | _ => True

theorem content?_record (arrays : Bool) (name : String) (field : Json) :
    content? arrays name (.record [(name, field)]) = some field := by
  have named : [(name, field)].map (·.1) = [name] := rfl
  have read : fields [name] 0 (.object [(some name, field)]) = some [some field] :=
    fields_record named (List.nodup_singleton name) 0
  cases arrays <;> simp [content?, read, Json.record]

@[simp] theorem ofJson?_toJson_iff (arrays : Bool) (g : Guard) : ofJson? arrays g.toJson = some g ↔ g.Indexed := by
  cases g with
  | tensor signatures => simp [ofJson?, toJson, content?_record, Indexed]
  | view c => simp [ofJson?, toJson, content?_record, Indexed]
  | value => simp [ofJson?, toJson, isBare, Indexed]
  | sizeEq => simp [ofJson?, toJson, isBare, Indexed]

@[simp] theorem whole_toJson (g : Guard) : g.toJson.Whole := by
  cases g <;> simp [toJson, Signature.whole_toJson]

end Guard

namespace Binding

@[mk_iff]
structure Indexed (b : Binding) : Prop where
  guard : b.guard.Indexed
  arguments : ∀ position ∈ b.arguments, position < indexBound

@[simp] theorem ofJson?_toJson_iff (arrays : Bool) (b : Binding) : ofJson? arrays b.toJson = some b ↔ b.Indexed := by
  obtain ⟨guard, arguments⟩ := b
  simp [ofJson?, toJson, Option.bind_eq_some_iff, indexed_iff]

@[simp] theorem whole_toJson (b : Binding) : b.toJson.Whole := by simp [toJson]

end Binding

namespace Chain

def Indexed (c : Chain) : Prop := ∀ b ∈ c.bindings, b.Indexed

theorem ofJson?_toJson_iff (arrays : Bool) (c : Chain) : ofJson? arrays c.toJson = some c ↔ c.Indexed := by
  obtain ⟨bindings⟩ := c
  simp [ofJson?, toJson, Option.bind_eq_some_iff, Indexed]

theorem whole_toJson (c : Chain) : c.toJson.Whole := by simp [toJson]

end Chain

namespace Config

theorem ofJson?_toJson (c : Config) : ofJson? c.toJson = some c := by
  simp [ofJson?, toJson, keys]

theorem whole_toJson (c : Config) : c.toJson.Whole := by simp [toJson]

end Config

namespace Group

theorem ofJson?_toJson (g : Group) : ofJson? g.toJson = some g := by
  simp [ofJson?, toJson, toNat?_nat, g.id.toNat_lt_size]

theorem whole_toJson (g : Group) : g.toJson.Whole := by simp [toJson]

end Group

theorem bind_read_render {j : Json} {read : Json → Option α} {a : α} (whole : j.Whole) (tree : read j = some a) :
    (Json.read j.render).bind read = some a := by
  rw [read_render whole, Option.bind_some, tree]

theorem injOn_render {write : α → Json} {read : Json → Option α} {fits : α → Prop}
    (whole : ∀ a, fits a → (write a).Whole) (tree : ∀ a, fits a → read (write a) = some a) :
    Set.InjOn (fun a => (write a).render) {a | fits a} := by
  intro a fitsA b fitsB same
  dsimp only at same
  -- A text determines its tree at any depth, also where it is too deep for a reader of values.
  exact Option.some.inj <| calc some a
    _ = (Json.read (write a).render).bind read := (bind_read_render (whole a fitsA) (tree a fitsA)).symm
    _ = (Json.read (write b).render).bind read := by rw [same]
    _ = some b := bind_read_render (whole b fitsB) (tree b fitsB)

/-- What is written of a value that fits is read as that value, from its tree and from its text, and no other value that
fits is written alike. Nothing is written deeper than a text is read. -/
structure Lossless (write : α → Json) (read : Json → Option α) (fits : α → Prop) : Prop where
  tree : ∀ a, fits a → read (write a) = some a
  text : ∀ a, fits a → (Json.read (write a).render).bind read = some a
  injOn : Set.InjOn (fun a => (write a).render) {a | fits a}
  depth_le : ∀ a, (write a).depth ≤ depthLimit

theorem Lossless.of_tree {write : α → Json} {read : Json → Option α} {fits : α → Prop} {n : Nat}
    (whole : ∀ a, (write a).Whole) (depth_le : ∀ a, (write a).depth ≤ n) (within : n ≤ depthLimit)
    (tree : ∀ a, fits a → read (write a) = some a) : Lossless write read fits where
  tree := tree
  text a fitting := bind_read_render (whole a) (tree a fitting)
  injOn := injOn_render (fun a _ => whole a) tree
  depth_le a := Nat.le_trans (depth_le a) within

/-- Every stored type is read back from its tree and its text. So is a value without doubles, but for the text of one
whose containers nest too deep, which is refused. -/
theorem stored_lossless :
    Lossless Signature.toJson Signature.ofJson? Signature.Indexed ∧
    Lossless ViewConstraint.toJson ViewConstraint.ofJson? (fun _ => True) ∧
    (∀ arrays, Lossless Guard.toJson (Guard.ofJson? arrays) Guard.Indexed) ∧
    (∀ arrays, Lossless Chain.toJson (Chain.ofJson? arrays) Chain.Indexed) ∧
    Lossless Config.toJson Config.ofJson? (fun _ => True) ∧
    Lossless Group.toJson Group.ofJson? (fun _ => True) ∧
    Lossless Tensor.toJson Tensor.ofJson? (fun _ => True) ∧
    ∀ number : Double → Json,
      (∀ v : Value, Value.ofJson? (v.toJson number) = some v ↔
        ∀ d ∈ v.doubles, Double.ofJson? (number d) = some d) ∧
      (∀ v : Value, v.doubles = [] → Value.read (v.toJson number).render =
        if (v.toJson number).depth ≤ depthLimit then some v else none) ∧
      Set.InjOn (fun v : Value => (v.toJson number).render) {v | v.doubles = []} := by
  refine ⟨?signature, ?constraint, ?guard, ?chain, ?config, ?group, ?tensor, fun _ => ⟨?tree, ?text, ?injOn⟩⟩
  case signature =>
    exact .of_tree Signature.whole_toJson Signature.depth_toJson_le (by decide) fun s => s.ofJson?_toJson_iff.2
  case constraint =>
    exact .of_tree ViewConstraint.whole_toJson ViewConstraint.depth_toJson_le (by decide) fun c _ => c.ofJson?_toJson
  case guard =>
    intro arrays
    exact .of_tree Guard.whole_toJson Guard.depth_toJson_le (by decide) fun g => (g.ofJson?_toJson_iff arrays).2
  case chain =>
    intro arrays
    exact .of_tree Chain.whole_toJson Chain.depth_toJson_le (by decide) fun c => (c.ofJson?_toJson_iff arrays).2
  case config =>
    exact .of_tree Config.whole_toJson Config.depth_toJson_le (by decide) fun c _ => c.ofJson?_toJson
  case group =>
    exact .of_tree Group.whole_toJson Group.depth_toJson_le (by decide) fun g _ => g.ofJson?_toJson
  case tensor =>
    have depth_le (t : Tensor) : t.toJson.depth ≤ 2 := Nat.le_of_eq t.depth_toJson
    exact .of_tree Tensor.whole_toJson depth_le (by decide) fun t _ => t.ofJson?_toJson
  case tree => exact Value.ofJson?_toJson_iff
  case text => exact fun v => Value.read_render_toJson
  case injOn => exact injOn_render (fun v => Value.whole_toJson) fun v => Value.ofJson?_toJson

def Value.inLists (v : Value) : Nat → Value
  | 0 => v
  | n + 1 => .list [v.inLists n]

theorem Value.doubles_inLists (v : Value) (n : Nat) : (v.inLists n).doubles = v.doubles := by
  induction n with
  | zero => rfl
  | succ n ih => simp [inLists, doubles, doublesAll, ih]

theorem Value.depth_toJson_inLists (number : Double → Json) (v : Value) (n : Nat) :
    ((v.inLists n).toJson number).depth = (v.toJson number).depth + 2 * n := by
  induction n with
  | zero => rfl
  | succ n ih =>
    have outer : ((v.inLists (n + 1)).toJson number).depth = ((v.inLists n).toJson number).depth + 2 := by
      simp [inLists, toJson, toJsonAll, record, depth, depthAll, depthMembers]
    rw [outer, ih, Nat.mul_succ, Nat.add_assoc]

theorem stored_lossless_deepest :
    let deepest := (Value.bool true).inLists 63
    deepest.doubles = [] ∧ Value.read (deepest.toJson fun _ => .null).render = some deepest := by
  intro deepest
  have exact : deepest.doubles = [] := Value.doubles_inLists _ _
  obtain ⟨-, text, -⟩ := stored_lossless.2.2.2.2.2.2.2 fun _ => .null
  refine ⟨exact, (text _ exact).trans (if_pos ?_)⟩
  rw [Value.depth_toJson_inLists]
  decide

theorem read_inLists_eq_none :
    (Value.none.inLists 64).doubles = [] ∧
      Value.read ((Value.none.inLists 64).toJson fun _ => .null).render = none := by
  have exact : (Value.none.inLists 64).doubles = [] := Value.doubles_inLists _ _
  refine ⟨exact, (Value.read_render_toJson exact).trans (if_neg ?_)⟩
  rw [Value.depth_toJson_inLists]
  decide

end FusionGuards
