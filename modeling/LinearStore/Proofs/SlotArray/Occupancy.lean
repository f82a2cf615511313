import LinearStore.Proofs.SlotArray.Checked
import LinearStore.Surface
import Mathlib.Algebra.GroupWithZero.Nat
import Mathlib.Algebra.Order.Group.Nat

set_option autoImplicit false

namespace LinearStore

variable {α : Type}

namespace SlotArray

section Observers

variable (array : SlotArray α) (index : Nat)

theorem has_eq_ok_iff (full : Bool) :
    array.has index = .ok full ↔ array.occupancy[index]? = some full := by
  rw [has, occupancy, List.getElem?_map]
  rcases array.read_or_outside index with outside | ⟨held, read⟩
  · rw [share_of_outside outside, List.getElem?_eq_none outside]
    simp [Except.map]
  · rw [share_of_read read, read]
    simp [Except.map]

theorem has_full_iff :
    array.has index = .ok true ↔ ∃ value, array.share index = .ok (.full value) := by
  rw [has]
  rcases array.read_or_outside index with outside | ⟨held, read⟩
  · rw [share_of_outside outside]
    simp [Except.map]
  · rw [share_of_read read]
    cases held <;> simp [Except.map, Slot.isFull]

theorem peek_eq_ok_iff (value : α) :
    array.peek index = .ok value ↔ array.share index = .ok (.full value) := by
  rw [peek]
  rcases array.read_or_outside index with outside | ⟨held, read⟩
  · rw [share_of_outside outside]
    simp
  · rw [share_of_read read]
    cases held <;> simp

variable {array index}

theorem has_of_outside (outside : array.length ≤ index) :
    array.has index = .error (array.outOfRange index) := by
  rw [has, share_of_outside outside]
  rfl

theorem peek_of_outside (outside : array.length ≤ index) :
    array.peek index = .error (array.outOfRange index) := by
  rw [peek, share_of_outside outside]

end Observers

theorem full_count_eq_count (array : SlotArray α) :
    array.fullCount = array.occupancy.count true := by
  rw [fullCount, occupancy, List.count_eq_countP, List.countP_map]
  apply List.countP_congr
  intro slot _
  simp

theorem full_count_cons (slot : Slot α) (rest : List (Slot α)) :
    fullCount ⟨slot :: rest⟩ = fullCount ⟨rest⟩ + slot.isFull.toNat := by
  rw [fullCount, List.countP_cons]
  cases slot <;> rfl

-- What is replaced stands on the left, so the equation needs no subtraction.
theorem full_count_set {slots : List (Slot α)} {index : Nat} {old : Slot α}
    (read : slots[index]? = some old) (new : Slot α) :
    fullCount ⟨slots.set index new⟩ + old.isFull.toNat = fullCount ⟨slots⟩ + new.isFull.toNat := by
  induction slots generalizing index with
  | nil => simp at read
  | cons slot rest ih =>
      cases index with
      | zero =>
          have same : slot = old := Option.some.inj read
          rw [List.set_cons_zero, full_count_cons, full_count_cons, same]
          omega
      | succ index =>
          rw [List.getElem?_cons_succ] at read
          have later := ih read
          rw [List.set_cons_succ, full_count_cons, full_count_cons]
          omega

section Changes

variable {array : SlotArray α} {index : Nat}

theorem full_count_swap {new old : Slot α} {swapped : SlotArray α}
    (done : array.swap index new = .ok (swapped, old)) :
    swapped.fullCount + old.isFull.toNat = array.fullCount + new.isFull.toNat := by
  obtain ⟨read, rfl⟩ := (swap_eq_ok_iff ..).mp done
  exact full_count_set read new

theorem full_count_give {value : α} {filled : SlotArray α}
    (done : array.give index value = .ok filled) : filled.fullCount = array.fullCount + 1 :=
  full_count_swap ((give_eq_ok_iff_swap ..).mp done)

theorem full_count_take {value : α} {emptied : SlotArray α}
    (done : array.take index = .ok (emptied, value)) : emptied.fullCount + 1 = array.fullCount :=
  full_count_swap ((take_eq_ok_iff_swap ..).mp done)

theorem swap_returned {new : Slot α} {rejected : Rejected (SlotArray α × Slot α)}
    (refused : array.swap index new = .error rejected) : rejected.returned.1 = array := by
  rw [((swap_error_iff ..).mp refused).2]

theorem give_returned {value : α} {rejected : Rejected (SlotArray α × α)}
    (refused : array.give index value = .error rejected) : rejected.returned.1 = array := by
  rcases (give_error_iff ..).mp refused with ⟨_, rfl⟩ | ⟨_, rfl⟩
  · rfl
  · rfl

theorem take_returned {rejected : Rejected (SlotArray α)}
    (refused : array.take index = .error rejected) : rejected.returned = array := by
  rcases (take_error_iff ..).mp refused with ⟨_, rfl⟩ | ⟨_, rfl⟩
  · rfl
  · rfl

theorem free_returned {rejected : Rejected (SlotArray α)}
    (refused : array.free = .error rejected) : rejected.returned = array := by
  rw [((free_error_iff ..).mp refused).2]

end Changes

def Move.content : Move α → Slot α
  | .swap _ new | .swapLent _ new | .externSwap _ new => new
  | .take _ => .empty
  | .give _ value => .full value

-- How many values a move stores, by how it ended.
def Move.storedCount (move : Move α) : Returned α → Nat
  | .ok _ => move.content.isFull.toNat
  | .error _ => 0

def handedCount : Returned α → Nat
  | .ok old => old.isFull.toNat
  | .error _ => 0

theorem swap_lent_full_count (array : SlotArray α) (index : Nat) (new : Slot α) :
    let turn := array.swapLent index new
    turn.2.fullCount + handedCount turn.1 =
      array.fullCount + (Move.swapLent index new).storedCount turn.1 := by
  rcases array.read_or_outside index with outside | ⟨old, read⟩
  · rw [swap_lent_of_outside outside]
    rfl
  · rw [swap_lent_of_read read]
    exact full_count_set read new

theorem move_full_count (array : SlotArray α) (move : Move α) :
    (array.move move).2.fullCount + handedCount (array.move move).1 =
      array.fullCount + move.storedCount (array.move move).1 := by
  cases move with
  | swapLent index new => exact array.swap_lent_full_count index new
  | swap index new =>
      rw [SlotArray.move, after_swap_eq]
      exact array.swap_lent_full_count index new
  | externSwap index new =>
      rw [SlotArray.move, Surface.lseq_swap_eq, after_swap_eq]
      exact array.swap_lent_full_count index.toNat new
  | take index =>
      rw [SlotArray.move]
      cases outcome : array.take index with
      | ok done => exact full_count_take outcome
      | error rejected => exact congrArg fullCount (take_returned outcome)
  | give index value =>
      rw [SlotArray.move]
      cases outcome : array.give index value with
      | ok filled => exact full_count_give outcome
      | error rejected => exact congrArg fullCount (give_returned outcome)

theorem moves_full_count (array : SlotArray α) (moves : List (Move α)) :
    let told := array.moves moves
    told.2.fullCount + (told.1.map handedCount).sum =
      array.fullCount + (List.zipWith Move.storedCount moves told.1).sum := by
  induction moves generalizing array with
  | nil => rfl
  | cons move rest ih =>
      have now := array.move_full_count move
      have later := ih (array.move move).2
      simp only [moves, List.map_cons, List.sum_cons, List.zipWith_cons_cons] at later ⊢
      omega

end SlotArray

open SlotArray in
theorem occupancy_observers_agree (array : SlotArray α) :
    array.fullCount = array.occupancy.count true ∧
    array.occupancy.length = array.length ∧
    array.fullCount ≤ array.length ∧
    (∀ index,
      (∀ full, array.occupancy[index]? = some full ↔ array.has index = .ok full) ∧
      (array.has index = .ok true ↔ ∃ value, array.share index = .ok (.full value)) ∧
      (∀ value, array.share index = .ok (.full value) ↔ array.peek index = .ok value) ∧
      (array.length ≤ index →
        array.has index = .error (.indexOutOfRange index array.length) ∧
        array.peek index = .error (.indexOutOfRange index array.length) ∧
        array.share index = .error (.indexOutOfRange index array.length))) ∧
    (∀ index new,
      (index < array.length → ∃ swapped old,
        array.swap index new = .ok (swapped, old) ∧
        array.swapLent index new = (.ok old, swapped) ∧
        swapped.fullCount + old.isFull.toNat = array.fullCount + new.isFull.toNat) ∧
      (∀ rejected, array.swap index new = .error rejected →
        rejected.returned.1.fullCount = array.fullCount) ∧
      ∀ rejected, (array.swapLent index new).1 = .error rejected →
        (array.swapLent index new).2.fullCount = array.fullCount) ∧
    (∀ index value,
      (∀ filled, array.give index value = .ok filled →
        filled.fullCount = array.fullCount + 1) ∧
      ∀ rejected, array.give index value = .error rejected →
        rejected.returned.1.fullCount = array.fullCount) ∧
    (∀ index,
      (∀ emptied value, array.take index = .ok (emptied, value) →
        emptied.fullCount + 1 = array.fullCount) ∧
      ∀ rejected, array.take index = .error rejected →
        rejected.returned.fullCount = array.fullCount) ∧
    (∀ rejected, array.free = .error rejected →
      rejected.returned.fullCount = array.fullCount) ∧
    ∀ moves : List (Move α),
      let told := array.moves moves
      told.2.fullCount + (told.1.map handedCount).sum =
        array.fullCount + (List.zipWith Move.storedCount moves told.1).sum := by
  refine ⟨array.full_count_eq_count, List.length_map .., List.countP_le_length, fun index => ?_,
    fun index new => ⟨fun inside => ?_, fun rejected refused => ?_, fun rejected refused => ?_⟩,
    fun index value => ⟨fun filled => full_count_give, fun rejected refused => ?_⟩,
    fun index => ⟨fun emptied value => full_count_take, fun rejected refused => ?_⟩,
    fun rejected refused => ?_, array.moves_full_count⟩
  · refine ⟨fun full => (array.has_eq_ok_iff index full).symm, array.has_full_iff index,
      fun value => (array.peek_eq_ok_iff index value).symm, fun outside => ?_⟩
    exact ⟨has_of_outside outside, peek_of_outside outside, share_of_outside outside⟩
  · obtain ⟨swapped, old, done, _⟩ := swap_of_inside inside new
    exact ⟨swapped, old, done, (swap_lent_eq_ok_iff ..).mpr done, full_count_swap done⟩
  · rw [swap_returned refused]
  · rw [swap_lent_of_error array refused]
  · rw [give_returned refused]
  · rw [take_returned refused]
  · rw [free_returned refused]

-- Of the two slots one is full. Every operation is refused once, for the slot or for the index.
theorem occupancy_observers_agree_when_half_full :
    let array : SlotArray Nat := ⟨[.full 4, .empty]⟩
    let filled : SlotArray Nat := ⟨[.full 4, .full 9]⟩
    let emptied : SlotArray Nat := ⟨[.empty, .empty]⟩
    let outside : Fault := .indexOutOfRange 2 2
    let pair : Rejected (SlotArray Nat × Slot Nat) := ⟨outside, (array, .full 5)⟩
    let occupied : Rejected (SlotArray Nat × Nat) :=
      ⟨.contractViolation (.slotOccupied 0), (array, 9)⟩
    let vacant : Rejected (SlotArray Nat) := ⟨.contractViolation (.slotEmpty 1), array⟩
    let held : Rejected (SlotArray Nat) :=
      ⟨.contractViolation (.freeWithOccupiedSlots 1), array⟩
    (array.length ≤ 2 ∧ array.has 2 = .error outside ∧ array.peek 2 = .error outside ∧
      array.share 2 = .error outside) ∧
    (0 < array.length ∧ ∃ swapped old, array.swap 0 (.full 7) = .ok (swapped, old) ∧
      swapped.fullCount + old.isFull.toNat = array.fullCount + 1) ∧
    (array.swap 2 (.full 5) = .error pair ∧ pair.returned.1.fullCount = array.fullCount) ∧
    ((array.swapLent 2 (.full 5)).1 = .error ⟨outside, .full 5⟩ ∧
      (array.swapLent 2 (.full 5)).2.fullCount = array.fullCount) ∧
    (array.give 1 9 = .ok filled ∧ filled.fullCount = array.fullCount + 1) ∧
    (array.give 0 9 = .error occupied ∧ occupied.returned.1.fullCount = array.fullCount) ∧
    (array.take 0 = .ok (emptied, 4) ∧ emptied.fullCount + 1 = array.fullCount) ∧
    (array.take 1 = .error vacant ∧ vacant.returned.fullCount = array.fullCount) ∧
    (array.free = .error held ∧ held.returned.fullCount = array.fullCount) := by
  intro array filled emptied outside pair occupied vacant held
  have swapRefused : array.swap 2 (.full 5) = .error pair := rfl
  have lentRefused : (array.swapLent 2 (.full 5)).1 = .error ⟨outside, .full 5⟩ := rfl
  have given : array.give 1 9 = .ok filled := rfl
  have giveRefused : array.give 0 9 = .error occupied := rfl
  have taken : array.take 0 = .ok (emptied, 4) := rfl
  have takeRefused : array.take 1 = .error vacant := rfl
  have freeRefused : array.free = .error held := rfl
  obtain ⟨_, _, _, observed, swaps, gives, takes, frees, _⟩ := occupancy_observers_agree array
  have short : array.length ≤ 2 := by decide
  have inside : 0 < array.length := by decide
  obtain ⟨swapped, old, done, _, counted⟩ := (swaps 0 (.full 7)).1 inside
  obtain ⟨_, _, _, faults⟩ := observed 2
  exact ⟨⟨short, faults short⟩, ⟨inside, swapped, old, done, counted⟩,
    ⟨swapRefused, (swaps 2 (.full 5)).2.1 pair swapRefused⟩,
    ⟨lentRefused, (swaps 2 (.full 5)).2.2 _ lentRefused⟩,
    ⟨given, (gives 1 9).1 filled given⟩, ⟨giveRefused, (gives 0 9).2 occupied giveRefused⟩,
    ⟨taken, (takes 0).1 emptied 4 taken⟩, ⟨takeRefused, (takes 1).2 vacant takeRefused⟩,
    ⟨freeRefused, frees held freeRefused⟩⟩

end LinearStore
