import FusionGuards.Proofs.Gate
import FusionGuards.Proofs.Inference
import FusionGuards.Tensor.Listing

/-! The evaluation of a chain with each list that is indexed looked up entry by entry, in the order of the checks. An
index beyond its list leaves no answer, nor does a quotient that is not a word. -/

namespace FusionGuards

/-- A check that reads lists by index. It may end early with an answer, and it has none where an index is beyond its
list. -/
abbrev Reading := ExceptT (Except Fault Bool) Option

namespace Reading

def entry (xs : List α) (i : Nat) : Reading α := liftM xs[i]?

def ofExcept : Except Fault α → Reading α
  | .ok a => pure a
  | .error fault => throw (.error fault)

def divide (a b : Int64) : Reading (Int64 × Int64) :=
  if b = 0 ∨ a = Int64.minValue ∧ b = -1 then liftM none else pure (a / b, a % b)

def answer? (x : Reading Bool) : Option (Except Fault Bool) :=
  x.run.map fun
    | .error answer => answer
    | .ok passed => .ok passed

/-- The answer of a check that another one makes, which goes on from it. -/
def call (x : Reading Bool) : Reading Bool := do
  ofExcept (← liftM x.answer?)

@[simp] theorem liftM_some (a : α) : (liftM (some a) : Reading α) = pure a := rfl

theorem entry_of_getElem? {xs : List α} {i : Nat} {a : α} (h : xs[i]? = some a) : entry xs i = pure a := by
  rw [entry, h, liftM_some]

theorem divide_of_pos {a b : Int64} (pos : 1 ≤ b) : divide a b = pure (a / b, a % b) := by
  rw [divide, if_neg]
  rintro (rfl | ⟨-, rfl⟩)
  · exact absurd pos (by decide)
  · exact absurd pos (by decide)

theorem ofExcept_bind (x : Except Fault α) (f : α → Except Fault β) :
    ofExcept (x >>= f) = ofExcept x >>= fun a => ofExcept (f a) := by
  cases x <;> rfl

@[simp] theorem answer?_ofExcept (x : Except Fault Bool) : (ofExcept x).answer? = some x := by
  cases x <;> rfl

theorem call_of_answer? {x : Reading Bool} {answer : Except Fault Bool} (h : x.answer? = some answer) :
    x.call = ofExcept answer := by
  rw [call, h, liftM_some, pure_bind]

theorem answer?_bind (x : Reading α) (f : α → Reading Bool) :
    (x >>= f).answer? = x.run.bind fun
      | .error answer => some answer
      | .ok a => (f a).answer? := by
  rw [answer?, ExceptT.run_bind]
  rcases x.run with _ | answer | a <;> rfl

end Reading

def Tensor.listing (t : Tensor) : Listing := ⟨t.sizes, t.strides⟩

namespace Signature

/-- Whether a slot that is to be contiguous can only be so by what lies inside it, after a slot without an index. -/
def lacksNeighbour? (s : Signature) (l : Listing) (position dim : Nat) : Option Bool := do
  if position = 0 then return false
  let size ← l.sizes[dim]?
  if size = 1 then return false
  let stride ← l.strides[dim]?
  if stride = 1 then return false
  let before ← s.slots[position - 1]?
  return before.index.isNone

def checkSlotIndexed (s : Signature) (l : Listing) (rank position : Nat) (reference : Option Nat) :
    Reading (Option Nat) := do
  let slot ← Reading.entry s.slots position
  match slot.index with
  | none => return reference
  | some dim =>
    if rank ≤ dim then throw (.error ⟨.tensor, .slotOutOfRange dim rank⟩)
    unless ← l.orderHolds? reference dim do throw (.ok false)
    if slot.contiguous then
      if ← s.lacksNeighbour? l position dim then throw (.error ⟨.tensor, .unknownNeighbour position⟩)
      unless ← l.contiguousAt? reference dim position do throw (.ok false)
    l.advance? reference dim

def checkFromIndexed (s : Signature) (l : Listing) (rank : Nat) : (count position : Nat) → Option Nat → Reading Bool
  | 0, _, _ => return true
  | count + 1, position, reference => do
    let reference ← s.checkSlotIndexed l rank position reference
    let size ← Reading.entry l.sizes position
    if (s.isBroadcast? position).any (· != (size == 1)) then return false
    if (s.isEmpty? position).any (· != (size == 0)) then return false
    s.checkFromIndexed l rank count (position + 1) reference

def compliesIndexed (s : Signature) (t : Tensor) (gradMode : Bool) : Reading Bool :=
  match s.rank with
  | none => throw (.error ⟨.tensor, .missingRank⟩)
  | some rank =>
    if rank ≠ t.ndim then return false
    else if s.elementType.any (· != t.elementType) then return false
    else if s.device.any (· != t.device) then return false
    else if s.requiresGrad.any (· != t.effectiveGrad gradMode) then return false
    else if s.sizes.length < rank ∨ s.slots.length < rank then
      throw (.error ⟨.tensor, .signatureLength rank s.sizes.length s.slots.length⟩)
    else s.checkFromIndexed t.listing rank rank 0 none

end Signature

namespace View

def fillIndexed (view : List Int64) (inferred : Option Nat) (size : Int64) : Reading (List Int64) :=
  match inferred with
  | none => return view
  | some dim => do
    let _ ← Reading.entry view dim
    return view.set dim size

def inferIndexed (sizes view : List Int64) : Reading (Option (List Int64)) := do
  match ← Reading.ofExcept (scan 0 ⟨none, 1⟩ view), Word.product? sizes with
  | some found, some elements =>
    let (quotient, remainder) ← Reading.divide elements found.elements
    if remainder ≠ 0 then return none
    some <$> fillIndexed view found.inferred quotient
  | _, _ => return none

end View

namespace Guard

def tensorsComplyIndexed (gradMode : Bool) : List Signature → List Value → Reading Bool
  | s :: signatures, v :: values =>
    match v.toTensor? with
    | none => throw (.error ⟨.tensor, .unexpectedValue "input" "a tensor" v.typeName⟩)
    | some t => do
      if ← (s.compliesIndexed t gradMode).call then tensorsComplyIndexed gradMode signatures values
      else return false
  | _, _ => return true

def checkViewIndexed (mode : Mode) (c : ViewConstraint) (args : List Value) : Reading Bool := do
  let sizes ← Reading.ofExcept ((← Reading.entry args 0).expectInts .view "tensor_sizes")
  let requested ← Reading.ofExcept ((← Reading.entry args 1).expectInts .view "view_sizes")
  match ← View.inferIndexed sizes requested with
  | none => return false
  | some resolved => return !mode.guards || (c.check sizes resolved).value

def checkPairIndexed (mode : Mode) (args : List Value) (check : Value → Value → Except Fault Bool) : Reading Bool :=
  if mode.guards then do
    let fst ← Reading.entry args 0
    let snd ← Reading.entry args 1
    Reading.ofExcept (check fst snd)
  else return true

def checkIndexed (mode : Mode) (g : Guard) (args : List Value) : Reading Bool :=
  if args.length ≠ g.arity then throw (.error ⟨g.kind, .argumentCount g.arity args.length⟩)
  else
    match g with
    | tensor signatures => if mode.guards then tensorsComplyIndexed mode.gradient signatures args else return true
    | view c => checkViewIndexed mode c args
    | value => checkPairIndexed mode args fun lhs rhs => .ok (lhs.equal rhs)
    | sizeEq => checkPairIndexed mode args broadcastEqual

end Guard

def Binding.checkIndexed (mode : Mode) (b : Binding) (args : List Value) : Reading Bool :=
  match select args b.arguments with
  | .error position => throw (.error ⟨b.guard.kind, .argumentCount (position + 1) args.length⟩)
  | .ok bound => b.guard.checkIndexed mode bound

namespace Chain

def evaluateFromIndexed (mode : Mode) (args : List Value) (index : Nat) :
    List Binding → Option (Except Fault Verdict)
  | [] => some (.ok .pass)
  | b :: rest => do
    match ← (b.checkIndexed mode args).answer? with
    | .error fault => return .error fault
    | .ok true => evaluateFromIndexed mode args (index + 1) rest
    | .ok false => return .ok (.fail index b.guard.kind)

def evaluateIndexed (mode : Mode) (c : Chain) (args : List Value) : Option (Except Fault Verdict) :=
  evaluateFromIndexed mode args 0 c.bindings

end Chain

namespace Signature

section Positions

variable {s : Signature} {t : Tensor} {w : Walk} {reference : Option Nat} {position : Nat} {unknown : Bool}

theorem axis?_listing (t : Tensor) (dim : Nat) : t.listing.axis? dim = t.axis? dim := by
  ext a
  rw [Listing.axis?_eq_some_iff, Tensor.axis?_eq_some_iff]
  rfl

def afterUnknown? (s : Signature) : Nat → Option Bool
  | 0 => some false
  | p + 1 => s.slots[p]?.map (·.index.isNone)

theorem lacksNeighbour?_eq {dim : Nat} {a : Axis} (before : s.afterUnknown? position = some unknown)
    (ha : t.axis? dim = some a) :
    s.lacksNeighbour? t.listing position dim = some (unknown && a.size != 1 && a.stride != 1) := by
  obtain ⟨-, size, stride⟩ := Tensor.axis?_eq_some_iff.1 ha
  cases position with
  | zero =>
    obtain rfl : false = unknown := Option.some.inj before
    rfl
  | succ p =>
    obtain ⟨inner, there, rfl⟩ := Option.map_eq_some_iff.1 before
    by_cases h1 : a.size = 1
    · simp [lacksNeighbour?, Tensor.listing, size, h1]
    · by_cases h2 : a.stride = 1
      · simp [lacksNeighbour?, Tensor.listing, size, stride, h2]
      · have wide : (a.size != 1) = true ∧ (a.stride != 1) = true := by simp [h1, h2]
        simp [lacksNeighbour?, Tensor.listing, size, stride, there, h1, h2, wide]

theorem run_checkSlotIndexed {slot : StrideSlot} (hslot : s.slots[position]? = some slot)
    (keeps : t.listing.Keeps reference w) (before : s.afterUnknown? position = some unknown) :
    match checkSlot t w position unknown slot with
    | .fault c => (s.checkSlotIndexed t.listing t.ndim position reference).run = some (.error (.error ⟨.tensor, c⟩))
    | .mismatch _ => (s.checkSlotIndexed t.listing t.ndim position reference).run = some (.error (.ok false))
    | .beyond w' => ∃ next, (s.checkSlotIndexed t.listing t.ndim position reference).run = some (.ok next) ∧
        t.listing.Keeps next w' := by
  rw [checkSlotIndexed, Reading.entry_of_getElem? hslot, pure_bind, checkSlot]
  cases index : slot.index with
  | none => exact ⟨reference, rfl, keeps⟩
  | some dim =>
    cases ha : t.axis? dim with
    | none =>
      have beyond : t.ndim ≤ dim := by
        by_contra inside
        obtain ⟨a, there⟩ := Tensor.exists_axis? (Nat.lt_of_not_le inside)
        simp [there] at ha
      simp [ha, beyond]
    | some a =>
      have inside : ¬t.ndim ≤ dim := Nat.not_le.2 (List.getElem?_eq_some_iff.1 (Tensor.axis?_eq_some_iff.1 ha).2.1).1
      have here : t.listing.axis? dim = some a := (axis?_listing t dim).trans ha
      obtain ⟨next, advanced, kept⟩ := keeps.advance here
      have order := keeps.orderHolds here
      have collapses : t.listing.contiguousAt? reference dim position = some (w.contiguousAt position a) :=
        keeps.contiguousAt here
      have lacks := lacksNeighbour?_eq before ha
      simp only [ha, inside, order, collapses, lacks, advanced]
      cases w.orderHolds a with
      | false => simp
      | true =>
        cases slot.contiguous with
        | false => simpa using kept
        | true =>
          simp only [Bool.true_and]
          cases (unknown && a.size != 1 && a.stride != 1) with
          | true => simp
          | false =>
            cases w.contiguousAt position a with
            | false => simp
            | true => simpa using kept

theorem checkFrom_nil (slots : List StrideSlot) (others : List (Option Int64)) :
    checkFrom t w position unknown slots others [] = pure true := by
  cases slots <;> cases others <;> rfl

theorem answer?_checkFromIndexed {count : Nat} (total : position + count = t.ndim) (hsizes : t.ndim ≤ s.sizes.length)
    (hslots : t.ndim ≤ s.slots.length) (keeps : t.listing.Keeps reference w)
    (before : s.afterUnknown? position = some unknown) :
    (s.checkFromIndexed t.listing t.ndim count position reference).answer? =
      some (checkFrom t w position unknown (s.slots.drop position) (s.sizes.drop position)
        (t.sizes.drop position)).run.value := by
  -- The look-ups of a step keep up with the walk and with the slot before, which is what the next step needs.
  induction count generalizing position reference w unknown with
  | zero =>
    have ended : t.sizes.drop position = [] := List.drop_eq_nil_of_le (Nat.le_of_eq total.symm)
    rw [ended, checkFrom_nil]
    rfl
  | succ count ih =>
    have inside : position < t.ndim := by omega
    have slot_lt := Nat.lt_of_lt_of_le inside hslots
    have recorded_lt := Nat.lt_of_lt_of_le inside hsizes
    rw [List.drop_eq_getElem_cons slot_lt, List.drop_eq_getElem_cons recorded_lt, List.drop_eq_getElem_cons inside,
      checkFrom, checkFromIndexed, Reading.answer?_bind]
    have slot := run_checkSlotIndexed (List.getElem?_eq_getElem slot_lt) keeps before
    cases result : checkSlot t w position unknown s.slots[position] with
    | fault c =>
      rw [result] at slot
      rw [slot]
      rfl
    | mismatch e =>
      rw [result] at slot
      rw [slot]
      rfl
    | beyond w' =>
      rw [result] at slot
      obtain ⟨next, run, kept⟩ := slot
      have size : Reading.entry t.listing.sizes position = pure t.sizes[position] :=
        Reading.entry_of_getElem? (List.getElem?_eq_getElem inside)
      have recorded : s.recorded? position = s.sizes[position] := by
        simp [recorded?, List.getElem?_eq_getElem recorded_lt]
      simp only [run, Option.bind_some, size, ← recorded, checkSize_recorded?, pure_bind]
      split_ifs
      · rfl
      · rfl
      · refine ih (by omega) kept ?_
        rw [afterUnknown?, List.getElem?_eq_getElem slot_lt, Option.map_some]

end Positions

theorem answer?_compliesIndexed (s : Signature) (t : Tensor) (gradMode : Bool) :
    (s.compliesIndexed t gradMode).answer? = some (s.complies t gradMode).run.value := by
  rw [compliesIndexed, complies]
  cases s.rank with
  | none => rfl
  | some rank =>
    dsimp only
    split_ifs with unequal elementType device requiresGrad short
    · rfl
    · rfl
    · rfl
    · rfl
    · rfl
    · obtain rfl : rank = t.ndim := Decidable.of_not_not unequal
      rw [not_or, Nat.not_lt, Nat.not_lt] at short
      exact answer?_checkFromIndexed (Nat.zero_add _) short.1 short.2 (Listing.keeps_none _) rfl

end Signature

namespace View

variable {sizes view : List Int64} {dim : Nat} {seen found : Scan}

theorem scan_found (scanned : scan dim seen view = .ok (some found)) (inside : ∀ d ∈ seen.inferred, d < dim)
    (pos : 1 ≤ seen.elements) : (∀ d ∈ found.inferred, d < dim + view.length) ∧ 1 ≤ found.elements := by
  induction view generalizing dim seen with
  | nil =>
    obtain rfl : seen = found := by simpa [scan] using scanned
    exact ⟨inside, pos⟩
  | cons size rest ih =>
    rw [scan] at scanned
    rw [List.length_cons, Nat.add_comm rest.length, ← Nat.add_assoc]
    split_ifs at scanned with isOpen several nonPositive
    · exact ih scanned (by simp) pos
    · cases product : Word.mul? seen.elements size with
      | none => simp [product] at scanned
      | some elements =>
        rw [product] at scanned
        refine ih scanned (fun d known => Nat.lt_succ_of_lt (inside d known)) ?_
        rw [Word.not_le_zero_iff] at nonPositive
        rw [Int64.le_iff_toInt_le] at pos nonPositive ⊢
        rw [Word.mul?_eq_some_iff.1 product]
        exact Int.mul_pos pos nonPositive

theorem fillIndexed_eq {inferred : Option Nat} (inside : ∀ d ∈ inferred, d < view.length) (size : Int64) :
    fillIndexed view inferred size = pure (fill view inferred size) := by
  cases inferred with
  | none => rfl
  | some d => rw [fillIndexed, Reading.entry_of_getElem? (List.getElem?_eq_getElem (inside d rfl)), pure_bind, fill]

theorem inferIndexed_eq (sizes view : List Int64) :
    inferIndexed sizes view = .ofExcept (infer sizes view).run.value := by
  rw [inferIndexed]
  cases scanned : scan 0 ⟨none, 1⟩ view with
  | error fault =>
    rw [value_infer_of_error scanned]
    rfl
  | ok found? =>
    cases found? with
    | none =>
      rw [value_infer_of_none scanned (.inl rfl)]
      rfl
    | some found =>
      cases count : Word.product? sizes with
      | none =>
        rw [value_infer_of_none scanned (.inr count)]
        rfl
      | some elements =>
        obtain ⟨inside, pos⟩ := scan_found scanned (by simp) (by decide)
        rw [Nat.zero_add] at inside
        rw [value_infer_of_some scanned count, Reading.ofExcept, pure_bind]
        simp only [Reading.divide_of_pos pos, pure_bind, fillIndexed_eq inside]
        by_cases whole : elements % found.elements = 0
        · simp [whole, Reading.ofExcept]
        · simp [whole, Reading.ofExcept]

end View

namespace Guard

variable (mode : Mode)

theorem tensorsComplyIndexed_eq (gradMode : Bool) (signatures : List Signature) (inputs : List Value) :
    tensorsComplyIndexed gradMode signatures inputs =
      .ofExcept (tensorsComply gradMode signatures inputs).run.value := by
  induction signatures generalizing inputs with
  | nil => rfl
  | cons s signatures ih =>
    cases inputs with
    | nil => rfl
    | cons v inputs =>
      rw [tensorsComplyIndexed, tensorsComply]
      cases v.toTensor? with
      | none => rfl
      | some t =>
        dsimp only
        rw [Attempt.value_bind, Reading.ofExcept_bind, Reading.call_of_answer? (s.answer?_compliesIndexed t gradMode)]
        refine bind_congr fun complies => ?_
        cases complies with
        | true => exact ih inputs
        | false => rfl

theorem checkViewIndexed_eq (c : ViewConstraint) (sizes requested : Value) :
    checkViewIndexed mode c [sizes, requested] = .ofExcept (checkView mode c sizes requested).run.value := by
  have fst : Reading.entry [sizes, requested] 0 = pure sizes := rfl
  have snd : Reading.entry [sizes, requested] 1 = pure requested := rfl
  simp only [checkViewIndexed, checkView, Attempt.value_bind, Attempt.value_ofExcept, Reading.ofExcept_bind, fst, snd,
    pure_bind, View.inferIndexed_eq]
  refine bind_congr fun sizes => bind_congr fun requested => bind_congr fun resolved? => ?_
  cases resolved? with
  | none => rfl
  | some resolved =>
    refine Eq.trans ?_ (congrArg Reading.ofExcept (value_gate mode .view _).symm)
    cases mode.guards <;> rfl

theorem checkPairIndexed_eq (guard : GuardKind) (check : Value → Value → Except Fault Bool) (fst snd : Value) :
    checkPairIndexed mode [fst, snd] check = .ofExcept (gate mode guard (.ofExcept (check fst snd))).run.value := by
  rw [checkPairIndexed, value_gate, Attempt.value_ofExcept]
  cases mode.guards <;> rfl

theorem checkIndexed_eq (g : Guard) (args : List Value) :
    g.checkIndexed mode args = .ofExcept (g.check mode args).run.value := by
  unfold checkIndexed
  split
  case isTrue miscounted =>
    rw [check_of_length_ne mode miscounted]
    rfl
  case isFalse counted =>
    rw [ne_eq, not_not] at counted
    cases g with
    | tensor signatures =>
      rw [check_tensor mode counted, value_gate]
      simp only [tensorsComplyIndexed_eq]
      cases mode.guards <;> rfl
    | view c =>
      obtain ⟨sizes, requested, rfl⟩ := List.length_eq_two.1 counted
      exact checkViewIndexed_eq mode c sizes requested
    | value =>
      obtain ⟨lhs, rhs, rfl⟩ := List.length_eq_two.1 counted
      exact checkPairIndexed_eq mode .value _ lhs rhs
    | sizeEq =>
      obtain ⟨input, reference, rfl⟩ := List.length_eq_two.1 counted
      exact checkPairIndexed_eq mode .sizeEq _ input reference

end Guard

theorem Binding.checkIndexed_eq (mode : Mode) (b : Binding) (args : List Value) :
    b.checkIndexed mode args = .ofExcept (b.outcome mode args) := by
  rw [checkIndexed, ← value_check, check]
  cases select args b.arguments with
  | error position => rfl
  | ok bound => exact Guard.checkIndexed_eq mode b.guard bound

namespace Chain

variable (mode : Mode) (args : List Value)

theorem evaluateFromIndexed_eq (index : Nat) (bs : List Binding) :
    evaluateFromIndexed mode args index bs = some (evaluateFrom mode args index bs).run.value := by
  induction bs generalizing index with
  | nil => rfl
  | cons b rest ih =>
    rw [evaluateFromIndexed, value_evaluateFrom_cons, Binding.checkIndexed_eq, Reading.answer?_ofExcept]
    rcases b.outcome mode args with fault | _ | _
    · rfl
    · rfl
    · exact ih (index + 1)

theorem evaluateIndexed_eq (c : Chain) : c.evaluateIndexed mode args = some (c.evaluate mode args).run.value :=
  evaluateFromIndexed_eq mode args 0 c.bindings

end Chain

end FusionGuards
