import LinearStore.Allocation
import LinearStore.Cells

set_option autoImplicit false

namespace LinearStore

structure SlotArray (α : Type) where
  slots : List (Slot α)
deriving DecidableEq, Repr

namespace SlotArray

variable {α β : Type}

def allocate [Allocator] (limits : Limits) (slotBytes length : Nat) :
    Except Fault (SlotArray α) :=
  match limits.grant slotBytes length with
  | .error fault => .error fault
  | .ok () => .ok ⟨List.replicate length .empty⟩

def length (array : SlotArray α) : Nat := array.slots.length

def outOfRange (array : SlotArray α) (index : Nat) : Fault := .indexOutOfRange index array.length

-- The array is only lent: what comes out stands next to the array as it is left.
def swapLent (array : SlotArray α) (index : Nat) (new : Slot α) :
    Except (Rejected (Slot α)) (Slot α) × SlotArray α :=
  if inside : index < array.slots.length then
    (.ok array.slots[index], ⟨array.slots.set index new⟩)
  else (.error ⟨array.outOfRange index, new⟩, array)

def handOver : Except (Rejected (Slot α)) (Slot α) × SlotArray α →
    Except (Rejected (SlotArray α × Slot α)) (SlotArray α × Slot α)
  | (.ok old, swapped) => .ok (swapped, old)
  | (.error rejected, kept) => .error (rejected.map fun new => (kept, new))

def swap (array : SlotArray α) (index : Nat) (new : Slot α) :
    Except (Rejected (SlotArray α × Slot α)) (SlotArray α × Slot α) :=
  handOver (array.swapLent index new)

def share (array : SlotArray α) (index : Nat) : Except Fault (Slot α) :=
  if inside : index < array.slots.length then .ok array.slots[index]
  else .error (array.outOfRange index)

def has (array : SlotArray α) (index : Nat) : Except Fault Bool :=
  (array.share index).map Slot.isFull

def occupancy (array : SlotArray α) : List Bool := array.slots.map Slot.isFull

def fullCount (array : SlotArray α) : Nat := array.slots.countP Slot.isFull

def held (array : SlotArray α) : List α := array.slots.flatMap Slot.toList

def peek (array : SlotArray α) (index : Nat) : Except Fault α :=
  match array.share index with
  | .error fault => .error fault
  | .ok (.full value) => .ok value
  | .ok .empty => .error (.contractViolation (.slotEmpty index))

def take (array : SlotArray α) (index : Nat) :
    Except (Rejected (SlotArray α)) (SlotArray α × α) :=
  match array.swap index .empty with
  | .ok (rest, .full value) => .ok (rest, value)
  | .ok (rest, .empty) => .error ⟨.contractViolation (.slotEmpty index), rest⟩
  | .error rejected => .error (rejected.map Prod.fst)

def give (array : SlotArray α) (index : Nat) (value : α) :
    Except (Rejected (SlotArray α × α)) (SlotArray α) :=
  match array.share index with
  | .ok .empty => .ok ⟨array.slots.set index (.full value)⟩
  | .ok (.full _) => .error ⟨.contractViolation (.slotOccupied index), (array, value)⟩
  | .error fault => .error ⟨fault, (array, value)⟩

def free (array : SlotArray α) : Except (Rejected (SlotArray α)) Unit :=
  match array.fullCount with
  | 0 => .ok ()
  | occupied + 1 =>
      .error ⟨.contractViolation (.freeWithOccupiedSlots (occupied + 1)), array⟩

def map (f : α → β) (array : SlotArray α) : SlotArray β := ⟨array.slots.map (Slot.map f)⟩

def inspect (text : α → String) (array : SlotArray α) : String :=
  "LSeq([" ++ ", ".intercalate (array.slots.map (Slot.inspect text)) ++ "])"

end SlotArray

end LinearStore
