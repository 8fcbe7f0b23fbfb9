import FusionGuards.Json.Record
import FusionGuards.Tensor.Signature

namespace FusionGuards

open Json

namespace ElementType

def toJson (t : ElementType) : Json := .text t.tag

def ofJson? (j : Json) : Option ElementType := do
  let (tag, content) ← variant j
  if isBare content then ofTag? tag else none

end ElementType

namespace Device

def toJson : Device → Json
  | cpu => .text "cpu"
  | cuda index => .record [("cuda", .nat index.toNat)]

def ofJson? (j : Json) : Option Device := do
  match ← variant j with
  | ("cpu", content) => if isBare content then some cpu else none
  | ("cuda", some index) => (toNat? UInt16.size index).map fun n => cuda (.ofNat n)
  | _ => none

end Device

namespace StrideSlot

def toJson (s : StrideSlot) : Json :=
  .record [("stride_index", .ofOption .nat s.index), ("contiguous", .bool s.contiguous)]

def ofJson? (j : Json) : Option StrideSlot := do
  match ← fields ["stride_index", "contiguous"] 0 j with
  | [index, contiguous] =>
    let index ← nullable toIndex? index
    let contiguous ← defaulted false toBool? contiguous
    some { index, contiguous }
  | _ => none

end StrideSlot

namespace Signature

def toJson (s : Signature) : Json :=
  .record [
    ("rank", .ofOption .nat s.rank),
    ("scalar_type", .ofOption ElementType.toJson s.elementType),
    ("device", .ofOption Device.toJson s.device),
    ("requires_grad", .ofOption .bool s.requiresGrad),
    ("sizes", .ofList (.ofOption .ofWord) s.sizes),
    ("stride_properties", .ofList StrideSlot.toJson s.slots)]

def keys : List String :=
  ["rank", "scalar_type", "device", "requires_grad", "sizes", "stride_properties"]

/-- In the array form only the rank has to be there. -/
def ofJson? (j : Json) : Option Signature := do
  match ← fields keys 1 j with
  | [rank, elementType, device, requiresGrad, sizes, slots] =>
    let rank ← nullable toIndex? rank
    let elementType ← nullable ElementType.ofJson? elementType
    let device ← nullable Device.ofJson? device
    let requiresGrad ← nullable toBool? requiresGrad
    let sizes ← defaulted [] (toList? (orNull toWord?)) sizes
    let slots ← defaulted [] (toList? StrideSlot.ofJson?) slots
    some { rank, elementType, device, requiresGrad, sizes, slots }
  | _ => none

end Signature

namespace TensorParts

def toJson (p : TensorParts) : Json :=
  .record [
    ("sizes", .ofWords p.sizes),
    ("strides", .ofOption .ofWords p.strides),
    ("scalar_type", p.elementType.toJson),
    ("device", p.device.toJson),
    ("requires_grad", .bool p.requiresGrad)]

def keys : List String := ["sizes", "strides", "scalar_type", "device", "requires_grad"]

def ofJson? (j : Json) : Option TensorParts := do
  match ← fields keys 0 j with
  | [sizes, strides, elementType, device, requiresGrad] =>
    let sizes ← required toWords? sizes
    let strides ← nullable toWords? strides
    let elementType ← required ElementType.ofJson? elementType
    let device ← required Device.ofJson? device
    let requiresGrad ← defaulted false toBool? requiresGrad
    some { sizes, strides, elementType, device, requiresGrad }
  | _ => none

end TensorParts

namespace Tensor

def toJson (t : Tensor) : Json := t.toParts.toJson

def ofJson? (j : Json) : Option Tensor := do
  let parts ← TensorParts.ofJson? j
  parts.toTensor.toOption

end Tensor

end FusionGuards
