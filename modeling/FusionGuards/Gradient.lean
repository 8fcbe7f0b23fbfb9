namespace FusionGuards

structure Gradient where
  enabled : Bool := true
  /-- The modes found by the suspensions that are still there, oldest first. -/
  suspensions : List Bool := []
  deriving DecidableEq, Repr

namespace Gradient

def set (g : Gradient) (enabled : Bool) : Gradient := { g with enabled }

def suspend (g : Gradient) : Gradient := ⟨false, g.suspensions ++ [g.enabled]⟩

def lift (g : Gradient) (index : Nat) : Gradient :=
  match g.suspensions[index]? with
  | none => g
  | some found => ⟨found, g.suspensions.eraseIdx index⟩

end Gradient

end FusionGuards
