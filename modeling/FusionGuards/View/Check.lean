import FusionGuards.View.Inference

namespace FusionGuards.ViewConstraint

def reject (e : Option Event) : Report (Option α) := { value := none, events := e.toList }

/-- The queue of dynamic sizes and the product of all sizes; `none` on a mismatch or overflow. -/
def checkTensor (queue : List Int64) (product : Int64) :
    List AxisRule → List Int64 → Report (Option (List Int64 × Int64))
  | rule :: rules, size :: sizes =>
    match rule with
    | .dynamic =>
      match Word.mul? product size with
      | none => reject none
      | some p => checkTensor (queue ++ [size]) p rules sizes
    | .fixed expected =>
      if expected ≠ size then reject (some (.tensorAxisMismatch expected size))
      else
        match Word.mul? product size with
        | none => reject none
        | some p => checkTensor queue p rules sizes
  | _, _ => pure (some (queue, product))

def expect? (queue : List Int64) : AxisRule → Option (Int64 × List Int64)
  | .fixed size => some (size, queue)
  | .dynamic =>
    match queue with
    | [] => none
    | size :: rest => some (size, rest)

def checkView (queue : List Int64) (product : Int64) :
    List AxisRule → List Int64 → Report (Option Int64)
  | rule :: rules, size :: sizes =>
    match expect? queue rule with
    | none => reject (some .unmatchedDynamicAxis)
    | some (expected, rest) =>
      if expected ≠ size then reject (some (.viewAxisMismatch expected size))
      else
        match Word.mul? product size with
        | none => reject none
        | some p => checkView rest p rules sizes
  | _, _ => pure (some product)

def check (c : ViewConstraint) (sizes view : List Int64) : Report Bool :=
  if c.tensor.length ≠ sizes.length ∨ c.view.length ≠ view.length then
    { value := false, events := [.viewCountMismatch] }
  else do
    match ← checkTensor [] 1 c.tensor sizes with
    | none => return false
    | some (queue, elements) =>
      match ← checkView queue 1 c.view view with
      | none => return false
      | some viewElements => return elements == viewElements

def evaluate (c : ViewConstraint) (sizes requested : List Int64) : Attempt Fault Bool := do
  match ← View.infer sizes requested with
  | none => return false
  | some resolved => c.check sizes resolved

end FusionGuards.ViewConstraint
