import FusionGuards.Guard.Fault
import FusionGuards.Report
import FusionGuards.View.Constraint

namespace FusionGuards.View

structure Scan where
  inferred : Option Nat
  elements : Int64
  deriving DecidableEq, Repr

/-- Goes on over the sizes from dimension `dim`, and stops at the first that is out of place or makes the product
too large. -/
def scan (dim : Nat) (seen : Scan) : List Int64 → Except Fault (Option Scan)
  | [] => .ok (some seen)
  | size :: rest =>
    if size = openAxis then
      if seen.inferred.isSome then .error ⟨.view, .severalInferred⟩
      else scan (dim + 1) { seen with inferred := some dim } rest
    else if size ≤ 0 then .error ⟨.view, .nonPositive dim size⟩
    else
      match Word.mul? seen.elements size with
      | none => .ok none
      | some product => scan (dim + 1) { seen with elements := product } rest

def fill (view : List Int64) (inferred : Option Nat) (size : Int64) : List Int64 :=
  match inferred with
  | none => view
  | some dim => view.set dim size

def infer (sizes view : List Int64) : Attempt Fault (Option (List Int64)) := do
  match ← Attempt.ofExcept (scan 0 ⟨none, 1⟩ view), Word.product? sizes with
  | some found, some elements =>
    if elements % found.elements ≠ 0 then .answer none (.infeasibleView elements found.elements)
    else return some (fill view found.inferred (elements / found.elements))
  | _, _ => return none

def wrapDim (dim : Int64) (count : Nat) : Except Fault Nat :=
  let wrapped := if dim < 0 then dim.toInt + count else dim.toInt
  if 0 ≤ wrapped ∧ wrapped < count then .ok wrapped.toNat
  else .error ⟨.view, .dimOutOfRange dim count⟩

/-- Puts in an axis of size one; the dimension counts in the result, so `-1` appends. -/
def unsqueeze (sizes : List Int64) (dim : Int64) : Except Fault (List Int64) :=
  (wrapDim dim (sizes.length + 1)).map fun i => sizes.take i ++ 1 :: sizes.drop i

def squeeze (sizes : List Int64) : List Int64 := sizes.filter (· != 1)

def squeezeAt (sizes : List Int64) (dim : Int64) : Except Fault (List Int64) :=
  (wrapDim dim sizes.length).map fun i => if sizes[i]? = some 1 then sizes.eraseIdx i else sizes

end FusionGuards.View
