import LinearStore.SlotArray
import LinearStore.Surface
import Mathlib.Algebra.Order.Group.Multiset

set_option autoImplicit false

namespace LinearStore

namespace SlotArray

variable {α : Type}

theorem set_of_read {slots : List (Slot α)} {index : Nat} {slot : Slot α}
    (read : slots[index]? = some slot) : slots.set index slot = slots := by
  obtain ⟨inside, same⟩ := List.getElem?_eq_some_iff.mp read
  rw [← same, List.set_getElem_self]

theorem swap_lent_of_read {array : SlotArray α} {index : Nat} {old : Slot α}
    (read : array.slots[index]? = some old) (new : Slot α) :
    array.swapLent index new = (.ok old, ⟨array.slots.set index new⟩) := by
  obtain ⟨inside, same⟩ := List.getElem?_eq_some_iff.mp read
  rw [swapLent, dif_pos inside, same]

theorem swap_lent_of_outside {array : SlotArray α} {index : Nat}
    (outside : array.length ≤ index) (new : Slot α) :
    array.swapLent index new = (.error ⟨array.outOfRange index, new⟩, array) :=
  dif_neg (Nat.not_lt.mpr outside)

theorem swap_of_read {array : SlotArray α} {index : Nat} {old : Slot α}
    (read : array.slots[index]? = some old) (new : Slot α) :
    array.swap index new = .ok (⟨array.slots.set index new⟩, old) := by
  rw [swap, swap_lent_of_read read, handOver]

theorem swap_of_outside {array : SlotArray α} {index : Nat} (outside : array.length ≤ index)
    (new : Slot α) : array.swap index new = .error ⟨array.outOfRange index, (array, new)⟩ := by
  rw [swap, swap_lent_of_outside outside, handOver, Rejected.map]

theorem share_of_read {array : SlotArray α} {index : Nat} {slot : Slot α}
    (read : array.slots[index]? = some slot) : array.share index = .ok slot := by
  obtain ⟨inside, same⟩ := List.getElem?_eq_some_iff.mp read
  rw [share, dif_pos inside, same]

theorem share_of_outside {array : SlotArray α} {index : Nat} (outside : array.length ≤ index) :
    array.share index = .error (array.outOfRange index) :=
  dif_neg (Nat.not_lt.mpr outside)

theorem take_of_full {array : SlotArray α} {index : Nat} {value : α}
    (read : array.slots[index]? = some (.full value)) :
    array.take index = .ok (⟨array.slots.set index .empty⟩, value) := by
  rw [take, swap_of_read read]

-- The refused take has swapped an empty slot for an empty slot.
theorem take_of_empty {array : SlotArray α} {index : Nat}
    (read : array.slots[index]? = some .empty) :
    array.take index = .error ⟨.contractViolation (.slotEmpty index), array⟩ := by
  rw [take, swap_of_read read]
  simp only [set_of_read read]

theorem take_of_outside {array : SlotArray α} {index : Nat} (outside : array.length ≤ index) :
    array.take index = .error ⟨array.outOfRange index, array⟩ := by
  rw [take, swap_of_outside outside]
  rfl

theorem give_of_empty {array : SlotArray α} {index : Nat}
    (read : array.slots[index]? = some .empty) (value : α) :
    array.give index value = .ok ⟨array.slots.set index (.full value)⟩ := by
  rw [give, share_of_read read]

theorem give_of_full {array : SlotArray α} {index : Nat} {old : α}
    (read : array.slots[index]? = some (.full old)) (value : α) :
    array.give index value =
      .error ⟨.contractViolation (.slotOccupied index), (array, value)⟩ := by
  rw [give, share_of_read read]

theorem give_of_outside {array : SlotArray α} {index : Nat} (outside : array.length ≤ index)
    (value : α) : array.give index value = .error ⟨array.outOfRange index, (array, value)⟩ := by
  rw [give, share_of_outside outside]

theorem free_of_vacant {array : SlotArray α} (vacant : array.fullCount = 0) :
    array.free = .ok () := by
  rw [free, vacant]

theorem free_of_occupied {array : SlotArray α} (occupied : array.fullCount ≠ 0) :
    array.free =
      .error ⟨.contractViolation (.freeWithOccupiedSlots array.fullCount), array⟩ := by
  obtain ⟨count, counted⟩ := Nat.exists_eq_succ_of_ne_zero occupied
  rw [free, counted]

theorem read_or_outside (array : SlotArray α) (index : Nat) :
    array.length ≤ index ∨ ∃ slot, array.slots[index]? = some slot := by
  by_cases inside : index < array.slots.length
  · exact Or.inr ⟨_, List.getElem?_eq_getElem inside⟩
  · exact Or.inl (Nat.not_lt.mp inside)

theorem allocate_eq [Allocator] (limits : Limits) (slotBytes length : Nat) :
    (allocate limits slotBytes length : Except Fault (SlotArray α)) =
      (limits.grant slotBytes length).map fun _ => ⟨List.replicate length .empty⟩ := by
  rw [allocate]
  cases limits.grant slotBytes length <;> rfl

end SlotArray

theorem Call.narrow_eq (index : UInt64) (length : Nat) :
    Call.narrow index length = .ok index.toNat :=
  if_pos index.toNat_lt

namespace Surface

variable {α : Type}

theorem seq_get_eq (array : LinearArray α) (index : UInt64) :
    seqGet array index = array.get index.toNat := by
  rw [seqGet, Call.narrow_eq]

theorem seq_set_eq (array : LinearArray α) (index : UInt64) (value : α) :
    seqSet array index value = array.set index.toNat value := by
  rw [seqSet, Call.narrow_eq]

theorem lseq_swap_eq (array : SlotArray α) (index : UInt64) (new : Slot α) :
    lseqSwap array index new = array.swap index.toNat new := by
  rw [lseqSwap, Call.narrow_eq]

theorem lseq_share_eq (array : SlotArray α) (index : UInt64) :
    lseqShare array index = array.share index.toNat := by
  rw [lseqShare, Call.narrow_eq]

end Surface

theorem SlotArray.after_swap_eq {α : Type} (array : SlotArray α) (index : Nat) (new : Slot α) :
    afterSwap (array.swap index new) = array.swapLent index new := by
  rw [swap]
  rcases array.swapLent index new with ⟨rejected | old, rest⟩
  · rfl
  · rfl

variable {α β : Type}

section Places

variable {places : List α} {index : Nat} {old : α}

theorem flat_map_erase_idx (contents : α → List β) (read : places[index]? = some old) :
    ((places.eraseIdx index).flatMap contents : Multiset β) + contents old =
      places.flatMap contents := by
  obtain ⟨inside, rfl⟩ := List.getElem?_eq_some_iff.mp read
  have rearranged := (List.getElem_cons_eraseIdx_perm inside).flatMap_right contents
  rw [← Multiset.coe_eq_coe.mpr rearranged, List.flatMap_cons, ← Multiset.coe_add, add_comm]

theorem flat_map_set (contents : α → List β) (read : places[index]? = some old) (new : α) :
    ((places.set index new).flatMap contents : Multiset β) + contents old =
      places.flatMap contents + contents new := by
  obtain ⟨inside, _⟩ := List.getElem?_eq_some_iff.mp read
  have rearranged := (List.set_perm_cons_eraseIdx inside new).flatMap_right contents
  rw [Multiset.coe_eq_coe.mpr rearranged, List.flatMap_cons, ← Multiset.coe_add, add_assoc,
    flat_map_erase_idx contents read, add_comm]

theorem coe_erase_idx (read : places[index]? = some old) :
    (places.eraseIdx index : Multiset α) + {old} = places := by
  have removed := flat_map_erase_idx (fun place => [place]) read
  rwa [List.flatMap_singleton', List.flatMap_singleton'] at removed

theorem coe_set (read : places[index]? = some old) (new : α) :
    (places.set index new : Multiset α) + {old} = places + {new} := by
  have replaced := flat_map_set (fun place => [place]) read new
  rwa [List.flatMap_singleton', List.flatMap_singleton'] at replaced

end Places

namespace SlotArray

theorem held_set {slots : List (Slot α)} {index : Nat} {old : Slot α}
    (read : slots[index]? = some old) (new : Slot α) :
    (held ⟨slots.set index new⟩ : Multiset α) + old.toList = held ⟨slots⟩ + new.toList :=
  flat_map_set Slot.toList read new

theorem held_of_vacant {array : SlotArray α} (vacant : array.fullCount = 0) : array.held = [] := by
  rw [fullCount, List.countP_eq_zero] at vacant
  rw [held, List.flatMap_eq_nil_iff]
  intro slot member
  cases slot with
  | full value => exact absurd rfl (vacant _ member)
  | empty => rfl

theorem held_replicate (count : Nat) :
    held (⟨List.replicate count .empty⟩ : SlotArray α) = [] :=
  held_of_vacant (List.countP_eq_zero.mpr fun slot member => by
    rw [List.eq_of_mem_replicate member]
    exact Bool.false_ne_true)

end SlotArray

end LinearStore
