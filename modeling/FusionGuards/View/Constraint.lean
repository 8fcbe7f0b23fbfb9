import FusionGuards.Word

/-! The axes that a recorded reshape leaves alone are dynamic on both sides; they correspond by order of appearance,
not by index. -/

namespace FusionGuards

/-- The raw value of a dynamic axis in recorded lists, and of the inferred axis in requested sizes. -/
def openAxis : Int64 := -1

inductive AxisRule
  | fixed (size : Int64)
  | dynamic
  deriving DecidableEq, Repr

def AxisRule.ofRaw (a : Int64) : AxisRule := if a = openAxis then dynamic else fixed a

def AxisRule.describe : AxisRule → String
  | fixed size => "Fixed(" ++ Word.text size ++ ")"
  | dynamic => "Dynamic"

structure ViewConstraint where
  tensor : List AxisRule
  view : List AxisRule
  deriving DecidableEq, Repr

namespace ViewConstraint

def ofRaw (tensor view : List Int64) : ViewConstraint :=
  ⟨tensor.map .ofRaw, view.map .ofRaw⟩

def describeRules (rules : List AxisRule) : String :=
  "[" ++ ", ".intercalate (rules.map AxisRule.describe) ++ "]"

def describe (c : ViewConstraint) : String :=
  "ViewConstraint \x7b tensor: " ++ describeRules c.tensor ++ ", view: " ++ describeRules c.view ++ " \x7d"

end ViewConstraint

end FusionGuards
