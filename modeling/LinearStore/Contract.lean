import LinearStore.LinearArray
import LinearStore.Sequence
import LinearStore.SlotArray

set_option autoImplicit false

namespace LinearStore

inductive Contract where
  | allocated (what : String) (requested actual : Nat)
  | lengthPreserved (what : String) (before after : Nat)
  | swapExact (index : Nat) (newFull storedFull : Bool)
deriving DecidableEq, Repr

namespace Contract

def Holds : Contract → Prop
  | allocated _ requested actual => requested = actual
  | lengthPreserved _ before after => before = after
  | swapExact _ newFull storedFull => newFull = storedFull

instance (contract : Contract) : Decidable contract.Holds := by
  cases contract <;> unfold Holds <;> infer_instance

def fullness : Bool → String
  | true => "full"
  | false => "empty"

def message : Contract → String
  | allocated what requested actual =>
      "Contract violation: " ++ what ++ s!" allocated {actual} slots, requested {requested}"
  | lengthPreserved what before after =>
      "Contract violation: " ++ what ++ s!" changed length from {before} to {after}"
  | swapExact index newFull storedFull =>
      s!"Contract violation: swap_raw at {index} stored a " ++ fullness storedFull ++
        " slot, expected " ++ fullness newFull

def check (contract : Contract) : Except String Unit :=
  if contract.Holds then .ok () else .error contract.message

end Contract

-- What a checked computation comes to, or the text it stops with.
abbrev Asserted (β : Type) : Type := Except String β

namespace Asserted

variable {σ α : Type}

def outOfBounds (index length : Nat) : String :=
  s!"index out of bounds: the len is {length} but the index is {index}"

def load (cells : List α) (index : Nat) : Asserted α :=
  match cells[index]? with
  | some content => .ok content
  | none => .error (outOfBounds index cells.length)

def exchange (cells : List α) (index : Nat) (new : α) : Asserted (α × List α) := do
  let old ← load cells index
  return (old, cells.set index new)

def slice (cells : List α) (start stop : Nat) : Asserted (List α) :=
  if stop < start then .error s!"slice index starts at {start} but ends at {stop}"
  else if cells.length < stop then
    .error s!"range end index {stop} out of range for slice of length {cells.length}"
  else .ok ((cells.drop start).take (stop - start))

def allocate [Allocator] (limits : Limits) (slotBytes : Nat) (provider : Provider σ α)
    (length : Nat) (state : σ) : Asserted (Except Fault (LinearArray α) × σ) :=
  match limits.grant slotBytes length with
  | .error fault => .ok (.error fault, state)
  | .ok () => do
      let drawn := provider.draw length state
      (Contract.allocated "seq_alloc" length drawn.1.length).check
      return (.ok ⟨drawn.1⟩, drawn.2)

def allocateInit [Allocator] (slotBytes length : Nat) (value : α) :
    Asserted (Except Fault (LinearArray α)) :=
  match Allocation.reserve slotBytes length with
  | .error fault => .ok (.error fault)
  | .ok () => do
      let elements := List.replicate length value
      (Contract.allocated "seq_alloc_init" length elements.length).check
      return .ok ⟨elements⟩

def replace (array : LinearArray α) (index : Nat) (value : α) :
    Asserted (Except (Rejected (LinearArray α × α)) (LinearArray α × α)) :=
  let before := array.length
  if before ≤ index then .ok (.error ⟨array.outOfRange index, (array, value)⟩)
  else do
    let (old, elements) ← exchange array.elements index value
    (Contract.lengthPreserved "seq_set" before elements.length).check
    return .ok (⟨elements⟩, old)

def set (array : LinearArray α) (index : Nat) (value : α) :
    Asserted (Except (Rejected (LinearArray α × α)) (LinearArray α)) := do
  let written ← replace array index value
  return written.map Prod.fst

def allocateSlots [Allocator] (limits : Limits) (slotBytes length : Nat) :
    Asserted (Except Fault (SlotArray α)) :=
  match limits.grant slotBytes length with
  | .error fault => .ok (.error fault)
  | .ok () => do
      let slots := List.replicate length Slot.empty
      (Contract.allocated "lseq_alloc_raw" length slots.length).check
      return .ok ⟨slots⟩

def swapLent (array : SlotArray α) (index : Nat) (new : Slot α) :
    Asserted (Except (Rejected (Slot α)) (Slot α) × SlotArray α) :=
  let before := array.length
  if before ≤ index then .ok (.error ⟨array.outOfRange index, new⟩, array)
  else do
    let newFull := new.isFull
    let (old, slots) ← exchange array.slots index new
    let stored ← load slots index
    (Contract.swapExact index newFull stored.isFull).check
    (Contract.lengthPreserved "lseq_swap_raw" before slots.length).check
    return (.ok old, ⟨slots⟩)

def swap (array : SlotArray α) (index : Nat) (new : Slot α) :
    Asserted (Except (Rejected (SlotArray α × Slot α)) (SlotArray α × Slot α)) := do
  let turn ← swapLent array index new
  return SlotArray.handOver turn

def take (array : SlotArray α) (index : Nat) :
    Asserted (Except (Rejected (SlotArray α)) (SlotArray α × α)) := do
  match ← swap array index .empty with
  | .ok (rest, .full value) => return .ok (rest, value)
  | .ok (rest, .empty) => return .error ⟨.contractViolation (.slotEmpty index), rest⟩
  | .error rejected => return .error (rejected.map Prod.fst)

-- Writes the slot itself: what it displaces was seen to be empty.
def give (array : SlotArray α) (index : Nat) (value : α) :
    Asserted (Except (Rejected (SlotArray α × α)) (SlotArray α)) :=
  match array.share index with
  | .ok (.full _) =>
      .ok (.error ⟨.contractViolation (.slotOccupied index), (array, value)⟩)
  | .error fault => .ok (.error ⟨fault, (array, value)⟩)
  | .ok .empty => do
      let (_, slots) ← exchange array.slots index (.full value)
      return .ok ⟨slots⟩

def subsequence (fresh : Nat) (handle : Handle α) (lo hi : Nat) : Asserted (Handle α) :=
  let stop := min hi handle.contents.length
  let start := min lo stop
  if start = 0 ∧ stop = handle.contents.length then .ok handle
  else do
    let elements ← slice handle.contents.elements start stop
    return ⟨fresh, ⟨elements⟩⟩

end Asserted

end LinearStore
