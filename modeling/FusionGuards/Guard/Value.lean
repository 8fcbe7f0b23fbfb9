import FusionGuards.Double
import FusionGuards.Guard.Fault
import FusionGuards.Tensor.Basic

namespace FusionGuards

inductive Value
  | none
  | bool (b : Bool)
  | int (i : Int64)
  | double (d : Double)
  | str (s : String)
  | intList (xs : List Int64)
  | list (xs : List Value)
  | tensor (t : Tensor)

namespace Value

def typeName : Value → String
  | none => "None"
  | bool _ => "bool"
  | int _ => "int"
  | double _ => "float"
  | str _ => "str"
  | intList _ => "int[]"
  | list _ => "list"
  | tensor _ => "Tensor"

def isNone : Value → Bool
  | none => true
  | _ => false

def toInts? : Value → Option (List Int64)
  | intList xs => some xs
  | _ => .none

def toTensor? : Value → Option Tensor
  | tensor t => some t
  | _ => .none

def expectInts (guard : GuardKind) (argument : String) : Value → Except Fault (List Int64)
  | intList xs => .ok xs
  | v => .error ⟨guard, .unexpectedValue argument "an int list" v.typeName⟩

mutual

def equal : Value → Value → Bool
  | none, none => true
  | bool a, bool b => a == b
  | int a, int b => a == b
  | double a, double b => a.equal b
  | str a, str b => a == b
  | intList xs, intList ys => xs == ys
  | list xs, list ys => equalAll xs ys
  | tensor t, tensor u => t == u
  | _, _ => false

def equalAll : List Value → List Value → Bool
  | [], [] => true
  | x :: xs, y :: ys => equal x y && equalAll xs ys
  | _, _ => false

end

end Value

def samePattern (xs ys : List Int64) : Bool :=
  xs.length == ys.length && (xs.zip ys).all fun p => (p.1 == 1) == (p.2 == 1)

/-- Compares the broadcast pattern of an input with a reference. An empty reference accepts only `none`. -/
def broadcastEqual (input reference : Value) : Except Fault Bool := do
  let expected ← reference.expectInts .sizeEq "reference"
  if expected = [] then return input.isNone
  match input.toInts? with
  | none => return false
  | some sizes => return samePattern sizes expected

end FusionGuards
