import LinearStore.Proofs.Rejection

set_option autoImplicit false

namespace LinearStore

variable {α : Type}

namespace SlotArray

section Success

variable {array : SlotArray α} {index : Nat}

theorem swap_eq_ok_iff (new : Slot α) (swapped : SlotArray α) (old : Slot α) :
    array.swap index new = .ok (swapped, old) ↔
      array.slots[index]? = some old ∧ swapped = ⟨array.slots.set index new⟩ := by
  rcases array.read_or_outside index with outside | ⟨slot, read⟩
  · rw [swap_of_outside outside, List.getElem?_eq_none outside]
    simp
  · rw [swap_of_read read, read]
    simp [eq_comm, and_comm]

theorem swap_lent_eq_ok_iff (new : Slot α) (swapped : SlotArray α) (old : Slot α) :
    array.swapLent index new = (.ok old, swapped) ↔ array.swap index new = .ok (swapped, old) := by
  rw [swap]
  rcases array.swapLent index new with ⟨rejected | content, rest⟩
  · simp [handOver]
  · simp [handOver, and_comm]

theorem give_eq_ok_iff (value : α) (filled : SlotArray α) :
    array.give index value = .ok filled ↔
      array.slots[index]? = some .empty ∧ filled = ⟨array.slots.set index (.full value)⟩ := by
  rcases array.read_or_outside index with outside | ⟨slot, read⟩
  · rw [give_of_outside outside, List.getElem?_eq_none outside]
    simp
  · cases slot with
    | full held =>
        rw [give_of_full read, read]
        simp
    | empty =>
        rw [give_of_empty read, read]
        simp [eq_comm]

theorem take_eq_ok_iff (emptied : SlotArray α) (value : α) :
    array.take index = .ok (emptied, value) ↔
      array.slots[index]? = some (.full value) ∧ emptied = ⟨array.slots.set index .empty⟩ := by
  rcases array.read_or_outside index with outside | ⟨slot, read⟩
  · rw [take_of_outside outside, List.getElem?_eq_none outside]
    simp
  · cases slot with
    | full held =>
        rw [take_of_full read, read]
        simp [eq_comm, and_comm]
    | empty =>
        rw [take_of_empty read, read]
        simp

theorem give_eq_ok_iff_swap (value : α) (filled : SlotArray α) :
    array.give index value = .ok filled ↔
      array.swap index (.full value) = .ok (filled, .empty) := by
  rw [give_eq_ok_iff, swap_eq_ok_iff]

theorem take_eq_ok_iff_swap (emptied : SlotArray α) (value : α) :
    array.take index = .ok (emptied, value) ↔
      array.swap index .empty = .ok (emptied, .full value) := by
  rw [take_eq_ok_iff, swap_eq_ok_iff]

theorem free_eq_ok_iff : array.free = .ok () ↔ array.fullCount = 0 := by
  by_cases vacant : array.fullCount = 0
  · simp [free_of_vacant, vacant]
  · simp [free_of_occupied, vacant]

end Success

theorem swap_of_inside {array : SlotArray α} {index : Nat} (inside : index < array.length)
    (new : Slot α) :
    ∃ swapped old, array.swap index new = .ok (swapped, old) ∧ swapped.length = array.length :=
  ⟨_, _, swap_of_read (List.getElem?_eq_getElem inside) new, List.length_set⟩

theorem swap_back {array swapped : SlotArray α} {index : Nat} {new old : Slot α}
    (first : array.swap index new = .ok (swapped, old)) :
    swapped.swap index old = .ok (array, new) := by
  obtain ⟨read, rfl⟩ := (swap_eq_ok_iff ..).mp first
  have inside : index < array.slots.length := (List.getElem?_eq_some_iff.mp read).1
  apply (swap_eq_ok_iff ..).mpr
  refine ⟨List.getElem?_set_self inside, ?_⟩
  rw [List.set_set, set_of_read read]

theorem take_back {array filled : SlotArray α} {index : Nat} {value : α}
    (given : array.give index value = .ok filled) : filled.take index = .ok (array, value) :=
  (take_eq_ok_iff_swap ..).mpr (swap_back ((give_eq_ok_iff_swap ..).mp given))

theorem give_back {array emptied : SlotArray α} {index : Nat} {value : α}
    (taken : array.take index = .ok (emptied, value)) : emptied.give index value = .ok array :=
  (give_eq_ok_iff_swap ..).mpr (swap_back ((take_eq_ok_iff_swap ..).mp taken))

theorem swap_comm {array first both : SlotArray α} {i j : Nat} {a b oldI oldJ : Slot α}
    (different : i ≠ j) (one : array.swap i a = .ok (first, oldI))
    (other : first.swap j b = .ok (both, oldJ)) :
    ∃ second, array.swap j b = .ok (second, oldJ) ∧ second.swap i a = .ok (both, oldI) := by
  obtain ⟨readI, rfl⟩ := (swap_eq_ok_iff ..).mp one
  obtain ⟨readJ, rfl⟩ := (swap_eq_ok_iff ..).mp other
  rw [List.getElem?_set_ne different] at readJ
  refine ⟨_, swap_of_read readJ b, ?_⟩
  apply (swap_eq_ok_iff ..).mpr
  rw [List.getElem?_set_ne different.symm]
  exact ⟨readI, congrArg SlotArray.mk (List.set_comm a b different)⟩

end SlotArray

theorem checked_operations_are_guarded_swaps (array : SlotArray α) :
    (∀ index value filled, array.give index value = .ok filled ↔
      array.swap index (.full value) = .ok (filled, .empty)) ∧
    (∀ index emptied value, array.take index = .ok (emptied, value) ↔
      array.swap index .empty = .ok (emptied, .full value)) ∧
    (array.free = .ok () ↔ array.fullCount = 0) ∧
    (∀ index value filled, array.give index value = .ok filled →
      filled.take index = .ok (array, value)) ∧
    (∀ index emptied value, array.take index = .ok (emptied, value) →
      emptied.give index value = .ok array) ∧
    (∀ index new, index < array.length → ∃ swapped old,
      array.swap index new = .ok (swapped, old) ∧ swapped.swap index old = .ok (array, new)) ∧
    (∀ i j a b, i < array.length → j < array.length → i ≠ j → ∃ first second both oldI oldJ,
      (array.swap i a = .ok (first, oldI) ∧ first.swap j b = .ok (both, oldJ)) ∧
      (array.swap j b = .ok (second, oldJ) ∧ second.swap i a = .ok (both, oldI))) ∧
    ∀ index new swapped old, array.swapLent index new = (.ok old, swapped) ↔
      array.swap index new = .ok (swapped, old) := by
  refine ⟨fun _ value filled => SlotArray.give_eq_ok_iff_swap value filled,
    fun _ emptied value => SlotArray.take_eq_ok_iff_swap emptied value, SlotArray.free_eq_ok_iff,
    fun _ _ _ given => SlotArray.take_back given, fun _ _ _ taken => SlotArray.give_back taken,
    ?back, ?apart, fun _ new swapped old => SlotArray.swap_lent_eq_ok_iff new swapped old⟩
  case back =>
    intro index new inside
    obtain ⟨swapped, old, first, _⟩ := SlotArray.swap_of_inside inside new
    exact ⟨swapped, old, first, SlotArray.swap_back first⟩
  case apart =>
    intro i j a b insideI insideJ different
    obtain ⟨first, oldI, one, kept⟩ := SlotArray.swap_of_inside insideI a
    obtain ⟨both, oldJ, other, _⟩ := SlotArray.swap_of_inside (kept ▸ insideJ) b
    obtain ⟨second, early, late⟩ := SlotArray.swap_comm different one other
    exact ⟨first, second, both, oldI, oldJ, ⟨one, other⟩, early, late⟩

theorem checked_operations_are_guarded_swaps_when_half_full :
    let array : SlotArray Nat := ⟨[.full 4, .empty]⟩
    let filled : SlotArray Nat := ⟨[.full 4, .full 9]⟩
    let emptied : SlotArray Nat := ⟨[.empty, .empty]⟩
    (array.give 1 9 = .ok filled ∧ filled.take 1 = .ok (array, 9)) ∧
    (array.take 0 = .ok (emptied, 4) ∧ emptied.give 0 4 = .ok array) ∧
    (∃ swapped old, array.swap 0 (.full 7) = .ok (swapped, old) ∧
      swapped.swap 0 old = .ok (array, .full 7)) ∧
    ∃ first second both oldI oldJ,
      (array.swap 0 (.full 7) = .ok (first, oldI) ∧ first.swap 1 (.full 8) = .ok (both, oldJ)) ∧
      (array.swap 1 (.full 8) = .ok (second, oldJ) ∧ second.swap 0 (.full 7) = .ok (both, oldI)) := by
  intro array filled emptied
  have given : array.give 1 9 = .ok filled := rfl
  have taken : array.take 0 = .ok (emptied, 4) := rfl
  obtain ⟨_, _, _, takes, gives, back, apart, _⟩ := checked_operations_are_guarded_swaps array
  refine ⟨⟨given, takes 1 9 filled given⟩, ⟨taken, gives 0 emptied 4 taken⟩,
    back 0 (.full 7) (by decide), apart 0 1 (.full 7) (.full 8) ?_ ?_ ?_⟩
  · decide
  · decide
  · decide

end LinearStore
