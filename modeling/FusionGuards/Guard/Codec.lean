import FusionGuards.Double.Decimal
import FusionGuards.Guard.Basic
import FusionGuards.Guard.Value
import FusionGuards.Json.Reader
import FusionGuards.Tensor.Codec

/-! A text is read a little differently from a tree that is there already: values may nest only so deep in it, and a
guard's content may be the array of its fields. -/

namespace FusionGuards

open Json

namespace GuardKind

def toJson (k : GuardKind) : Json := .text k.name

def ofJson? (j : Json) : Option GuardKind := do
  let (name, content) ← variant j
  if isBare content then ofName? name else none

end GuardKind

def Double.ofJson? : Json → Option Double
  | .number n => ofNumber? n
  | _ => none

namespace Value

mutual

/-- Writes a value. The digits of a double are up to the writer. -/
def toJson (number : Double → Json) : Value → Json
  | none => .text "none"
  | bool b => .record [("bool", .bool b)]
  | int i => .record [("int", .ofWord i)]
  | double d => .record [("double", number d)]
  | str s => .record [("str", .text s)]
  | intList xs => .record [("int_list", .ofWords xs)]
  | list xs => .record [("list", .array (toJsonAll number xs))]
  | tensor t => .record [("tensor", t.toJson)]

def toJsonAll (number : Double → Json) : List Value → List Json
  | [] => []
  | v :: vs => toJson number v :: toJsonAll number vs

end

def ofContent? (tag : String) (content : Json) : Option Value :=
  match tag, content with
  | "none", .null => some .none
  | "bool", .bool b => some (.bool b)
  | "int", j => (toWord? j).map .int
  | "double", j => (Double.ofJson? j).map .double
  | "str", .string (some s) => some (.str s)
  | "int_list", j => (toWords? j).map .intList
  | "tensor", j => (Tensor.ofJson? j).map .tensor
  | _, _ => .none

mutual

def ofJson? : Json → Option Value
  | .string (some tag) => if tag = "none" then some .none else .none
  | .object [(some tag, content)] =>
    if tag = "list" then
      match content with
      | .array es => (ofJsonAll? es).map .list
      | _ => .none
    else ofContent? tag content
  | _ => .none

def ofJsonAll? : List Json → Option (List Value)
  | [] => some []
  | j :: js => do
    let v ← ofJson? j
    let vs ← ofJsonAll? js
    some (v :: vs)

end

mutual

/-- How deep the containers that are looked into nest. A tensor takes three, as every member of its record but the
unknown ones is flat. -/
def nesting : Json → Nat
  | .object [(some tag, content)] =>
    if tag = "tensor" then 3
    else
      match content with
      | .array es => if tag = "list" then nestingAll es + 2 else 2
      | _ => 1
  | _ => 0

def nestingAll : List Json → Nat
  | [] => 0
  | j :: js => max (nesting j) (nestingAll js)

end

def read (text : String) : Option Value := do
  let j ← Json.read text
  let v ← ofJson? j
  if nesting j ≤ depthLimit then some v else .none

end Value

namespace AxisRule

def toJson : AxisRule → Json
  | fixed size => .record [("fixed", .ofWord size)]
  | dynamic => .text "dynamic"

def ofJson? (j : Json) : Option AxisRule := do
  match ← variant j with
  | ("fixed", some size) => (toWord? size).map fixed
  | ("dynamic", content) => if isBare content then some dynamic else none
  | _ => none

end AxisRule

namespace ViewConstraint

def toJson (c : ViewConstraint) : Json :=
  .record [("tensor", .ofList AxisRule.toJson c.tensor), ("view", .ofList AxisRule.toJson c.view)]

def ofJson? (j : Json) : Option ViewConstraint := do
  match ← fields ["tensor", "view"] 0 j with
  | [tensor, view] =>
    let tensor ← required (toList? AxisRule.ofJson?) tensor
    let view ← required (toList? AxisRule.ofJson?) view
    some { tensor, view }
  | _ => none

end ViewConstraint

namespace Guard

def toJson : Guard → Json
  | tensor signatures => .record [("tensor", .record [("signatures", .ofList Signature.toJson signatures)])]
  | view constraint => .record [("view", .record [("constraint", constraint.toJson)])]
  | value => .text "value"
  | sizeEq => .text "size_eq"

def content? (arrays : Bool) (name : String) (content : Json) : Option Json := do
  match content, arrays with
  | .array _, false => none
  | _, _ =>
    match ← fields [name] 0 content with
    | [field] => field
    | _ => none

def ofJson? (arrays : Bool) (j : Json) : Option Guard := do
  match ← variant j with
  | ("tensor", some content) =>
    let signatures ← content? arrays "signatures" content
    (toList? Signature.ofJson? signatures).map tensor
  | ("view", some content) =>
    let constraint ← content? arrays "constraint" content
    (ViewConstraint.ofJson? constraint).map view
  | ("value", content) => if isBare content then some value else none
  | ("size_eq", content) => if isBare content then some sizeEq else none
  | _ => none

end Guard

namespace Binding

def toJson (b : Binding) : Json :=
  .record [("guard", b.guard.toJson), ("arguments", .ofList .nat b.arguments)]

def ofJson? (arrays : Bool) (j : Json) : Option Binding := do
  match ← fields ["guard", "arguments"] 0 j with
  | [guard, arguments] =>
    let guard ← required (Guard.ofJson? arrays) guard
    let arguments ← required (toList? toIndex?) arguments
    some { guard, arguments }
  | _ => none

end Binding

namespace Chain

def toJson (c : Chain) : Json := .record [("bindings", .ofList Binding.toJson c.bindings)]

def ofJson? (arrays : Bool) (j : Json) : Option Chain := do
  match ← fields ["bindings"] 0 j with
  | [bindings] =>
    let bindings ← required (toList? (Binding.ofJson? arrays)) bindings
    some { bindings }
  | _ => none

end Chain

end FusionGuards
