import FusionGuards.Tensor.ElementType
import FusionGuards.Word

namespace FusionGuards

structure Axis where
  dim : Nat
  size : Int64
  stride : Int64
  deriving DecidableEq, Repr

structure Tensor where
  sizes : List Int64
  strides : List Int64
  elementType : ElementType
  device : Device
  requiresGrad : Bool
  strides_length : strides.length = sizes.length
  sizes_nonneg : ∀ s ∈ sizes, 0 ≤ s
  deriving DecidableEq

inductive LayoutError
  | lengths (sizes strides : Nat)
  | negativeSize (dim : Nat) (size : Int64)
  deriving DecidableEq, Repr

def LayoutError.message : LayoutError → String
  | lengths sizes strides =>
    "tensor has " ++ toString sizes ++ " sizes but " ++ toString strides ++ " strides"
  | negativeSize dim size => "dimension " ++ toString dim ++ " has negative size " ++ Word.text size

/-- Elements in a dense block of the given sizes, empty dimensions counted as one, saturated. -/
def blockSize : List Int64 → Int64
  | [] => 1
  | s :: rest => Word.satMul (blockSize rest) (max s 1)

def rowMajorStrides : List Int64 → List Int64
  | [] => []
  | _ :: rest => blockSize rest :: rowMajorStrides rest

@[simp] theorem length_rowMajorStrides (sizes : List Int64) :
    (rowMajorStrides sizes).length = sizes.length := by
  induction sizes <;> simp [rowMajorStrides, *]

def firstNegative? (dim : Nat) : List Int64 → Option (Nat × Int64)
  | [] => none
  | s :: rest => if s < 0 then some (dim, s) else firstNegative? (dim + 1) rest

theorem firstNegative?_eq_none_iff {dim : Nat} {sizes : List Int64} :
    firstNegative? dim sizes = none ↔ ∀ s ∈ sizes, 0 ≤ s := by
  induction sizes generalizing dim with
  | nil => simp [firstNegative?]
  | cons s rest ih =>
    have hs : s < 0 ↔ ¬(0 ≤ s) := by rw [Int64.lt_iff_toInt_lt, Int64.le_iff_toInt_le, Int.not_le]
    by_cases h : s < 0
    · simp [firstNegative?, h, hs.1 h]
    · simp [firstNegative?, h, Decidable.of_not_not (mt hs.2 h), ih]

namespace Tensor

def ndim (t : Tensor) : Nat := t.sizes.length

def effectiveGrad (t : Tensor) (gradMode : Bool) : Bool := t.requiresGrad && gradMode

def withRequiresGrad (t : Tensor) (flag : Bool) : Tensor := { t with requiresGrad := flag }

def ofStrides (sizes strides : List Int64) (elementType : ElementType) (device : Device) :
    Except LayoutError Tensor :=
  if hl : strides.length = sizes.length then
    match hn : firstNegative? 0 sizes with
    | some (dim, size) => .error (.negativeSize dim size)
    | none => .ok ⟨sizes, strides, elementType, device, false, hl, firstNegative?_eq_none_iff.1 hn⟩
  else .error (.lengths sizes.length strides.length)

theorem ofStrides_eq_ok {sizes strides : List Int64} (hl : strides.length = sizes.length)
    (hn : ∀ s ∈ sizes, 0 ≤ s) (elementType : ElementType) (device : Device) :
    ofStrides sizes strides elementType device =
      .ok ⟨sizes, strides, elementType, device, false, hl, hn⟩ := by
  rw [ofStrides, dif_pos hl]
  split
  case h_1 dim size found =>
    rw [firstNegative?_eq_none_iff.2 hn] at found
    cases found
  case h_2 => rfl

def rowMajor (sizes : List Int64) (elementType : ElementType) (device : Device) :
    Except LayoutError Tensor :=
  ofStrides sizes (rowMajorStrides sizes) elementType device

def axesFrom (dim : Nat) : (sizes strides : List Int64) → List Axis
  | s :: sizes, t :: strides => ⟨dim, s, t⟩ :: axesFrom (dim + 1) sizes strides
  | _, _ => []

def axes (t : Tensor) : List Axis := axesFrom 0 t.sizes t.strides

def axis? (t : Tensor) (dim : Nat) : Option Axis := t.axes[dim]?

theorem getElem?_axesFrom {dim i : Nat} {sizes strides : List Int64} {a : Axis} :
    (axesFrom dim sizes strides)[i]? = some a ↔
      a.dim = dim + i ∧ sizes[i]? = some a.size ∧ strides[i]? = some a.stride := by
  induction sizes generalizing dim i strides with
  | nil => simp [axesFrom]
  | cons s sizes ih =>
    cases strides with
    | nil => simp [axesFrom]
    | cons t strides =>
      cases i with
      | zero =>
        obtain ⟨d, size, stride⟩ := a
        simp [axesFrom, eq_comm]
      | succ i => simp [axesFrom, ih, Nat.add_right_comm, Nat.add_assoc]

theorem axis?_eq_some_iff {t : Tensor} {dim : Nat} {a : Axis} :
    t.axis? dim = some a ↔
      a.dim = dim ∧ t.sizes[dim]? = some a.size ∧ t.strides[dim]? = some a.stride := by
  rw [axis?, axes, getElem?_axesFrom, Nat.zero_add]

@[simp] theorem length_axes (t : Tensor) : t.axes.length = t.ndim := by
  have length (dim : Nat) (sizes strides : List Int64) (h : strides.length = sizes.length) :
      (axesFrom dim sizes strides).length = sizes.length := by
    induction sizes generalizing dim strides with
    | nil => simp [axesFrom]
    | cons s sizes ih =>
      cases strides with
      | nil => simp at h
      | cons t strides => simp [axesFrom, ih (dim + 1) strides (by simpa using h)]
  exact length 0 t.sizes t.strides t.strides_length

theorem exists_axis? {t : Tensor} {dim : Nat} (h : dim < t.ndim) : ∃ a, t.axis? dim = some a := by
  rw [← length_axes] at h
  exact ⟨_, List.getElem?_eq_getElem h⟩

end Tensor

structure TensorParts where
  sizes : List Int64
  strides : Option (List Int64)
  elementType : ElementType
  device : Device
  requiresGrad : Bool
  deriving DecidableEq, Repr

def TensorParts.toTensor (p : TensorParts) : Except LayoutError Tensor :=
  (Tensor.ofStrides p.sizes (p.strides.getD (rowMajorStrides p.sizes)) p.elementType p.device).map
    (·.withRequiresGrad p.requiresGrad)

def Tensor.toParts (t : Tensor) : TensorParts :=
  ⟨t.sizes, some t.strides, t.elementType, t.device, t.requiresGrad⟩

end FusionGuards
