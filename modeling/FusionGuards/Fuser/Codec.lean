import FusionGuards.Fuser.Basic
import FusionGuards.Json.Record

namespace FusionGuards

open Json

namespace Config

def toJson (c : Config) : Json :=
  .record [
    ("singleton_fusion", .bool c.singletonFusion),
    ("horizontal_fusion", .bool c.horizontalFusion),
    ("guard_mode", .bool c.guardMode)]

def ofJson? (j : Json) : Option Config := do
  match ← fields keys 0 j with
  | [singletonFusion, horizontalFusion, guardMode] =>
    let singletonFusion ← defaulted false toBool? singletonFusion
    let horizontalFusion ← defaulted true toBool? horizontalFusion
    let guardMode ← defaulted true toBool? guardMode
    some { singletonFusion, horizontalFusion, guardMode }
  | _ => none

end Config

namespace Group

def toJson (g : Group) : Json := .record [("id", .nat g.id.toNat), ("name", .text g.name)]

def ofJson? (j : Json) : Option Group := do
  match ← fields ["id", "name"] 0 j with
  | [id, name] =>
    let id ← required (toNat? UInt64.size) id
    let name ← required toString? name
    some { id := .ofNat id, name }
  | _ => none

end Group

namespace Node

def toJson (n : Node) : Json := .record [("symbol", .text n.symbol)]

def ofJson? (j : Json) : Option Node := do
  match ← fields ["symbol"] 0 j with
  | [symbol] =>
    let symbol ← required toString? symbol
    some { symbol }
  | _ => none

end Node

end FusionGuards
