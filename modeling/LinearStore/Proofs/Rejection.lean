import LinearStore.Proofs.LinearArray
import LinearStore.Proofs.SlotArray

set_option autoImplicit false

namespace LinearStore

variable {α : Type}

namespace LinearArray

theorem replace_error_iff (array : LinearArray α) (index : Nat) (value : α)
    (rejected : Rejected (LinearArray α × α)) :
    array.replace index value = .error rejected ↔
      array.length ≤ index ∧ rejected = ⟨.indexOutOfRange index array.length, (array, value)⟩ := by
  rcases array.read_or_outside index with outside | ⟨old, read⟩
  · rw [replace_of_outside outside, Except.error.injEq, eq_comm]
    exact (and_iff_right outside).symm
  · have inside := (List.getElem?_eq_some_iff.mp read).1
    rw [replace_of_read read]
    exact iff_of_false nofun fun refused => absurd inside (Nat.not_lt.mpr refused.1)

theorem set_error_iff_replace (array : LinearArray α) (index : Nat) (value : α)
    (rejected : Rejected (LinearArray α × α)) :
    array.set index value = .error rejected ↔ array.replace index value = .error rejected := by
  rw [set]
  cases array.replace index value with
  | ok written => simp [Except.map]
  | error found => rw [Except.map, Except.error.injEq, Except.error.injEq]

theorem set_error_iff (array : LinearArray α) (index : Nat) (value : α)
    (rejected : Rejected (LinearArray α × α)) :
    array.set index value = .error rejected ↔
      array.length ≤ index ∧ rejected = ⟨.indexOutOfRange index array.length, (array, value)⟩ :=
  (set_error_iff_replace ..).trans (replace_error_iff ..)

end LinearArray

namespace SlotArray

variable (array : SlotArray α) (index : Nat)

theorem swap_lent_error_iff (new : Slot α) (rejected : Rejected (Slot α)) :
    (array.swapLent index new).1 = .error rejected ↔
      array.length ≤ index ∧ rejected = ⟨.indexOutOfRange index array.length, new⟩ := by
  rcases array.read_or_outside index with outside | ⟨old, read⟩
  · rw [swap_lent_of_outside outside, Except.error.injEq, eq_comm]
    exact (and_iff_right outside).symm
  · have inside := (List.getElem?_eq_some_iff.mp read).1
    rw [swap_lent_of_read read]
    exact iff_of_false nofun fun refused => absurd inside (Nat.not_lt.mpr refused.1)

theorem swap_lent_of_error {index : Nat} {new : Slot α} {rejected : Rejected (Slot α)}
    (refused : (array.swapLent index new).1 = .error rejected) :
    (array.swapLent index new).2 = array := by
  have outside := ((swap_lent_error_iff ..).mp refused).1
  rw [swap_lent_of_outside outside]

theorem swap_error_iff (new : Slot α) (rejected : Rejected (SlotArray α × Slot α)) :
    array.swap index new = .error rejected ↔
      array.length ≤ index ∧ rejected = ⟨.indexOutOfRange index array.length, (array, new)⟩ := by
  rcases array.read_or_outside index with outside | ⟨old, read⟩
  · rw [swap_of_outside outside, Except.error.injEq, eq_comm]
    exact (and_iff_right outside).symm
  · have inside := (List.getElem?_eq_some_iff.mp read).1
    rw [swap_of_read read]
    exact iff_of_false nofun fun refused => absurd inside (Nat.not_lt.mpr refused.1)

theorem take_error_iff (rejected : Rejected (SlotArray α)) :
    array.take index = .error rejected ↔
      (array.length ≤ index ∧ rejected = ⟨.indexOutOfRange index array.length, array⟩) ∨
      (array.slots[index]? = some .empty ∧
        rejected = ⟨.contractViolation (.slotEmpty index), array⟩) := by
  rcases array.read_or_outside index with outside | ⟨slot, read⟩
  · have unread : array.slots[index]? = none := List.getElem?_eq_none outside
    rw [take_of_outside outside, Except.error.injEq, eq_comm, unread]
    simp [outside, outOfRange]
  · have inside : ¬ array.length ≤ index :=
      Nat.not_le.mpr (List.getElem?_eq_some_iff.mp read).1
    cases slot with
    | full value =>
        rw [take_of_full read, read]
        simp [inside]
    | empty =>
        rw [take_of_empty read, read, Except.error.injEq, eq_comm]
        simp [inside]

theorem give_error_iff (value : α) (rejected : Rejected (SlotArray α × α)) :
    array.give index value = .error rejected ↔
      (array.length ≤ index ∧ rejected = ⟨.indexOutOfRange index array.length, (array, value)⟩) ∨
      ((∃ held, array.slots[index]? = some (.full held)) ∧
        rejected = ⟨.contractViolation (.slotOccupied index), (array, value)⟩) := by
  rcases array.read_or_outside index with outside | ⟨slot, read⟩
  · have unread : array.slots[index]? = none := List.getElem?_eq_none outside
    rw [give_of_outside outside, Except.error.injEq, eq_comm, unread]
    simp [outside, outOfRange]
  · have inside : ¬ array.length ≤ index :=
      Nat.not_le.mpr (List.getElem?_eq_some_iff.mp read).1
    cases slot with
    | full held =>
        rw [give_of_full read, read, Except.error.injEq, eq_comm]
        simp [inside]
    | empty =>
        rw [give_of_empty read, read]
        simp [inside]

theorem free_error_iff (rejected : Rejected (SlotArray α)) :
    array.free = .error rejected ↔
      (∃ slot ∈ array.slots, slot.isFull = true) ∧
        rejected = ⟨.contractViolation (.freeWithOccupiedSlots array.fullCount), array⟩ := by
  have occupied : array.fullCount ≠ 0 ↔ ∃ slot ∈ array.slots, slot.isFull = true := by
    rw [← Nat.pos_iff_ne_zero]
    exact List.countP_pos_iff
  rw [← occupied]
  by_cases vacant : array.fullCount = 0
  · rw [free_of_vacant vacant]
    exact iff_of_false nofun fun refused => refused.1 vacant
  · rw [free_of_occupied vacant, Except.error.injEq, eq_comm]
    exact (and_iff_right vacant).symm

end SlotArray

theorem rejections_hand_everything_back :
    (∀ (array : LinearArray α) value,
      (∀ index rejected, array.replace index value = .error rejected ↔
        array.length ≤ index ∧ rejected = ⟨.indexOutOfRange index array.length, (array, value)⟩) ∧
      (∀ index rejected, array.set index value = .error rejected ↔
        array.length ≤ index ∧ rejected = ⟨.indexOutOfRange index array.length, (array, value)⟩) ∧
      ∀ (index : UInt64) rejected, Surface.seqSet array index value = .error rejected ↔
        array.length ≤ index.toNat ∧
          rejected = ⟨.indexOutOfRange index.toNat array.length, (array, value)⟩) ∧
    (∀ (array : SlotArray α) new,
      (∀ index rejected, array.swap index new = .error rejected ↔
        array.length ≤ index ∧ rejected = ⟨.indexOutOfRange index array.length, (array, new)⟩) ∧
      (∀ index rejected, (array.swapLent index new).1 = .error rejected ↔
        (array.length ≤ index ∧ rejected = ⟨.indexOutOfRange index array.length, new⟩) ∧
          (array.swapLent index new).2 = array) ∧
      (∀ index, array.swap index new =
        match array.swapLent index new with
        | (.ok old, rest) => .ok (rest, old)
        | (.error rejected, rest) => .error (rejected.map fun new => (rest, new))) ∧
      ∀ (index : UInt64) rejected, Surface.lseqSwap array index new = .error rejected ↔
        array.length ≤ index.toNat ∧
          rejected = ⟨.indexOutOfRange index.toNat array.length, (array, new)⟩) ∧
    ∀ array : SlotArray α,
      (∀ index rejected, array.take index = .error rejected ↔
        (array.length ≤ index ∧ rejected = ⟨.indexOutOfRange index array.length, array⟩) ∨
        (array.slots[index]? = some .empty ∧
          rejected = ⟨.contractViolation (.slotEmpty index), array⟩)) ∧
      (∀ index value rejected, array.give index value = .error rejected ↔
        (array.length ≤ index ∧
          rejected = ⟨.indexOutOfRange index array.length, (array, value)⟩) ∨
        ((∃ held, array.slots[index]? = some (.full held)) ∧
          rejected = ⟨.contractViolation (.slotOccupied index), (array, value)⟩)) ∧
      ∀ rejected, array.free = .error rejected ↔
        (∃ slot ∈ array.slots, slot.isFull = true) ∧
          rejected = ⟨.contractViolation (.freeWithOccupiedSlots array.fullCount), array⟩ := by
  refine ⟨fun array value => ⟨?replace, ?set, ?wrapped⟩, fun array new =>
    ⟨?swap, ?lent, ?handedOver, ?wrappedSwap⟩,
    fun array => ⟨array.take_error_iff, array.give_error_iff, array.free_error_iff⟩⟩
  case replace => exact fun index => array.replace_error_iff index value
  case set => exact fun index => array.set_error_iff index value
  case wrapped =>
    intro index
    rw [Surface.seq_set_eq]
    exact array.set_error_iff index.toNat value
  case swap => exact fun index => array.swap_error_iff index new
  case lent =>
    intro index rejected
    rw [← array.swap_lent_error_iff]
    exact ⟨fun refused => ⟨refused, array.swap_lent_of_error refused⟩, And.left⟩
  case handedOver =>
    intro index
    rw [SlotArray.swap]
    rcases array.swapLent index new with ⟨rejected | old, rest⟩ <;> rfl
  case wrappedSwap =>
    intro index
    rw [Surface.lseq_swap_eq]
    exact array.swap_error_iff index.toNat new

end LinearStore
