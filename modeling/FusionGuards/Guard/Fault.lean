import FusionGuards.Word

namespace FusionGuards

inductive GuardKind
  | tensor
  | view
  | value
  | sizeEq
  deriving DecidableEq, Repr

namespace GuardKind

def name : GuardKind → String
  | tensor => "tensor"
  | view => "view"
  | value => "value"
  | sizeEq => "size_eq"

def all : List GuardKind := [tensor, view, value, sizeEq]

def ofName? (s : String) : Option GuardKind := all.find? (·.name == s)

end GuardKind

inductive Cause
  | missingRank
  | signatureLength (rank sizes slots : Nat)
  | unknownNeighbour (position : Nat)
  | slotOutOfRange (index rank : Nat)
  | severalInferred
  | nonPositive (dim : Nat) (size : Int64)
  | unexpectedValue (argument expected found : String)
  | argumentCount (expected found : Nat)
  | dimOutOfRange (dim : Int64) (rank : Nat)
  deriving DecidableEq, Repr

def Cause.message : Cause → String
  | missingRank => "signature has no rank"
  | signatureLength rank sizes slots =>
    "rank " ++ toString rank ++ " signature records " ++ toString sizes ++ " sizes, "
      ++ toString slots ++ " strides"
  | unknownNeighbour position =>
    "stride position " ++ toString position ++ " is contiguous after an unknown index"
  | slotOutOfRange index rank =>
    "stride index " ++ toString index ++ " is out of range for rank " ++ toString rank
  | severalInferred => "only one view dimension can be inferred"
  | nonPositive dim size =>
    "view dimension " ++ toString dim ++ " has non-positive size " ++ Word.text size
  | unexpectedValue argument expected found =>
    argument ++ " needs to be " ++ expected ++ ", found " ++ found
  | argumentCount expected found =>
    "expected " ++ toString expected ++ " arguments, found " ++ toString found
  | dimOutOfRange dim rank =>
    "dimension " ++ Word.text dim ++ " is out of range for " ++ toString rank ++ " sizes"

structure Fault where
  guard : GuardKind
  cause : Cause
  deriving DecidableEq, Repr

def Fault.message (f : Fault) : String := f.guard.name ++ " guard: " ++ f.cause.message

end FusionGuards
