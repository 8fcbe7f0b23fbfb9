namespace FusionGuards

inductive ElementType
  | bool
  | byte
  | char
  | short
  | int
  | long
  | half
  | bfloat16
  | float
  | double
  | complexFloat
  | complexDouble
  deriving DecidableEq, Repr

namespace ElementType

def name : ElementType → String
  | bool => "bool"
  | byte => "uint8"
  | char => "int8"
  | short => "int16"
  | int => "int32"
  | long => "int64"
  | half => "float16"
  | bfloat16 => "bfloat16"
  | float => "float32"
  | double => "float64"
  | complexFloat => "complex64"
  | complexDouble => "complex128"

def tag : ElementType → String
  | bool => "bool"
  | byte => "byte"
  | char => "char"
  | short => "short"
  | int => "int"
  | long => "long"
  | half => "half"
  | bfloat16 => "b_float16"
  | float => "float"
  | double => "double"
  | complexFloat => "complex_float"
  | complexDouble => "complex_double"

def all : List ElementType :=
  [bool, byte, char, short, int, long, half, bfloat16, float, double, complexFloat, complexDouble]

def ofTag? (s : String) : Option ElementType := all.find? (·.tag == s)

@[simp] theorem ofTag?_tag (t : ElementType) : ofTag? t.tag = some t := by
  cases t <;> decide

end ElementType

inductive Device
  | cpu
  | cuda (index : UInt16)
  deriving DecidableEq, Repr

def Device.name : Device → String
  | cpu => "cpu"
  | cuda index => "cuda:" ++ toString index.toNat

end FusionGuards
