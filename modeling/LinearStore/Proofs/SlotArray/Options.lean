import LinearStore.Allocation
import LinearStore.Proofs.SlotArray
import LinearStore.Surface
import Mathlib.Logic.Function.Basic

set_option autoImplicit false

namespace LinearStore

variable {α : Type}

theorem Slot.of_option_to_option (slot : Slot α) : Slot.ofOption slot.toOption = slot := by
  cases slot <;> rfl

namespace SlotArray

section Prediction

variable (length : Nat) (cells : Nat → Option α)

def exchanged (index : Nat) (new : Slot α) : Returned α × (Nat → Option α) :=
  if index < length then
    (.ok (.ofOption (cells index)), Function.update cells index new.toOption)
  else (.error ⟨.indexOutOfRange index length, new⟩, cells)

def cleared (index : Nat) : Returned α × (Nat → Option α) :=
  if index < length then
    match cells index with
    | some value => (.ok (.full value), Function.update cells index none)
    | none => (.error ⟨.contractViolation (.slotEmpty index), .empty⟩, cells)
  else (.error ⟨.indexOutOfRange index length, .empty⟩, cells)

def filled (index : Nat) (value : α) : Returned α × (Nat → Option α) :=
  if index < length then
    match cells index with
    | some _ => (.error ⟨.contractViolation (.slotOccupied index), .full value⟩, cells)
    | none => (.ok .empty, Function.update cells index (some value))
  else (.error ⟨.indexOutOfRange index length, .full value⟩, cells)

def predict : Move α → Returned α × (Nat → Option α)
  | .swap index new | .swapLent index new => exchanged length cells index new
  | .externSwap index new => exchanged length cells index.toNat new
  | .take index => cleared length cells index
  | .give index value => filled length cells index value

def predictions (cells : Nat → Option α) :
    List (Move α) → List (Returned α) × (Nat → Option α)
  | [] => ([], cells)
  | move :: rest =>
      let turn := predict length cells move
      let later := predictions turn.2 rest
      (turn.1 :: later.1, later.2)

end Prediction

-- The slots of an array are the first cells of a map.
structure Shows (array : SlotArray α) (length : Nat) (cells : Nat → Option α) : Prop where
  length_eq : array.length = length
  read : ∀ index, index < length → array.slots[index]? = some (.ofOption (cells index))

structure Follows (turn : Returned α × SlotArray α) (length : Nat)
    (predicted : Returned α × (Nat → Option α)) : Prop where
  returned : turn.1 = predicted.1
  shows : turn.2.Shows length predicted.2

variable {array : SlotArray α} {length : Nat} {cells : Nat → Option α}

theorem shows_replicate (length : Nat) :
    Shows (⟨List.replicate length .empty⟩ : SlotArray α) length fun _ => none :=
  ⟨List.length_replicate, fun _ inside => List.getElem?_replicate_of_lt inside⟩

namespace Shows

variable (shows : array.Shows length cells)

include shows

theorem store (index : Nat) (new : Slot α) :
    Shows ⟨array.slots.set index new⟩ length (Function.update cells index new.toOption) := by
  refine ⟨List.length_set.trans shows.length_eq, fun other inside => ?_⟩
  by_cases here : other = index
  · subst here
    have within : other < array.length := shows.length_eq.symm ▸ inside
    rw [List.getElem?_set_self within, Function.update_self, Slot.of_option_to_option]
  · rw [List.getElem?_set_ne (Ne.symm here), shows.read other inside,
      Function.update_of_ne here]

theorem outside {index : Nat} (notInside : ¬ index < length) : array.length ≤ index :=
  shows.length_eq.symm ▸ Nat.not_lt.mp notInside

theorem out_of_range (index : Nat) : array.outOfRange index = .indexOutOfRange index length := by
  rw [outOfRange, shows.length_eq]

theorem swap_lent (index : Nat) (new : Slot α) :
    Follows (array.swapLent index new) length (exchanged length cells index new) := by
  by_cases inside : index < length
  · rw [exchanged, if_pos inside, swap_lent_of_read (shows.read index inside)]
    exact ⟨rfl, shows.store index new⟩
  · rw [exchanged, if_neg inside, swap_lent_of_outside (shows.outside inside),
      shows.out_of_range]
    exact ⟨rfl, shows⟩

theorem swap (index : Nat) (new : Slot α) :
    Follows (afterSwap (array.swap index new)) length (exchanged length cells index new) := by
  rw [after_swap_eq]
  exact shows.swap_lent index new

theorem take (index : Nat) :
    Follows (afterTake (array.take index)) length (cleared length cells index) := by
  by_cases inside : index < length
  · have read := shows.read index inside
    rw [cleared, if_pos inside]
    cases held : cells index with
    | some value =>
        rw [held] at read
        rw [take_of_full read]
        exact ⟨rfl, shows.store index .empty⟩
    | none =>
        rw [held] at read
        rw [take_of_empty read]
        exact ⟨rfl, shows⟩
  · rw [cleared, if_neg inside, take_of_outside (shows.outside inside), shows.out_of_range]
    exact ⟨rfl, shows⟩

theorem give (index : Nat) (value : α) :
    Follows (afterGive (array.give index value)) length (filled length cells index value) := by
  by_cases inside : index < length
  · have read := shows.read index inside
    rw [filled, if_pos inside]
    cases held : cells index with
    | some old =>
        rw [held] at read
        rw [give_of_full read]
        exact ⟨rfl, shows⟩
    | none =>
        rw [held] at read
        rw [give_of_empty read]
        exact ⟨rfl, shows.store index (.full value)⟩
  · rw [filled, if_neg inside, give_of_outside (shows.outside inside), shows.out_of_range]
    exact ⟨rfl, shows⟩

theorem move (move : Move α) : Follows (array.move move) length (predict length cells move) := by
  cases move with
  | swap index new => exact shows.swap index new
  | swapLent index new => exact shows.swap_lent index new
  | take index => exact shows.take index
  | give index value => exact shows.give index value
  | externSwap index new =>
      rw [SlotArray.move, Surface.lseq_swap_eq]
      exact shows.swap index.toNat new

theorem share {index : Nat} (inside : index < length) :
    array.share index = .ok (.ofOption (cells index)) :=
  share_of_read (shows.read index inside)

theorem share_outside {index : Nat} (outside : length ≤ index) :
    array.share index = .error (.indexOutOfRange index length) := by
  rw [share_of_outside (shows.outside (Nat.not_lt.mpr outside)), shows.out_of_range]

end Shows

theorem moves_follow (shows : array.Shows length cells) (moves : List (Move α)) :
    (array.moves moves).1 = (predictions length cells moves).1 ∧
      (array.moves moves).2.Shows length (predictions length cells moves).2 := by
  induction moves generalizing array cells with
  | nil => exact ⟨rfl, shows⟩
  | cons move rest ih =>
      obtain ⟨returned, next⟩ := shows.move move
      obtain ⟨later, ended⟩ := ih next
      refine ⟨?_, ended⟩
      rw [SlotArray.moves, predictions, returned, later]

end SlotArray

open SlotArray in
theorem slots_behave_as_options [Allocator] {limits : Limits} {slotBytes length : Nat}
    {array : SlotArray α} (allocated : SlotArray.allocate limits slotBytes length = .ok array)
    (moves : List (Move α)) :
    let told := array.moves moves
    let predicted := predictions length (fun _ => none) moves
    told.1 = predicted.1 ∧ told.2.length = length ∧
    (∀ index < length, told.2.share index = .ok (.ofOption (predicted.2 index))) ∧
    (∀ index, length ≤ index → told.2.share index = .error (.indexOutOfRange index length)) ∧
    ∀ index : UInt64, Surface.lseqShare told.2 index = told.2.share index.toNat := by
  intro told predicted
  have empty : array.Shows length fun _ => none := by
    rw [allocate_eq] at allocated
    cases granted : limits.grant slotBytes length with
    | error fault =>
        rw [granted] at allocated
        cases allocated
    | ok _ =>
        rw [granted] at allocated
        cases allocated
        exact shows_replicate length
  obtain ⟨returned, shows⟩ := moves_follow empty moves
  exact ⟨returned, shows.length_eq, fun _ inside => shows.share inside,
    fun _ outside => shows.share_outside outside, Surface.lseq_share_eq told.2⟩

-- Each kind of move succeeds once and is refused once, for its slot or for its index.
theorem slots_behave_as_options_through_refusals :
    let moves : List (SlotArray.Move Nat) :=
      [.take 0, .give 0 4, .give 0 5, .swapLent 0 (.full 3), .swapLent 2 (.full 1),
        .swap 0 (.full 6), .swap 2 (.full 7), .give 2 8, .externSwap 1 (.full 9), .take 0,
        .externSwap 18446744073709551615 .empty, .take 2]
    let array : SlotArray Nat := ⟨[.empty, .empty]⟩
    let told := array.moves moves
    (SlotArray.allocate ⟨2⟩ 32 2 : Except Fault (SlotArray Nat)) = .ok array ∧
      told.1 = (SlotArray.predictions 2 (fun _ => none) moves).1 ∧
      told.1 =
        [.error ⟨.contractViolation (.slotEmpty 0), .empty⟩, .ok .empty,
          .error ⟨.contractViolation (.slotOccupied 0), .full 5⟩, .ok (.full 4),
          .error ⟨.indexOutOfRange 2 2, .full 1⟩, .ok (.full 3),
          .error ⟨.indexOutOfRange 2 2, .full 7⟩, .error ⟨.indexOutOfRange 2 2, .full 8⟩,
          .ok .empty, .ok (.full 6), .error ⟨.indexOutOfRange 18446744073709551615 2, .empty⟩,
          .error ⟨.indexOutOfRange 2 2, .empty⟩] ∧
      told.2.length = 2 ∧ told.2.share 0 = .ok .empty ∧ told.2.share 1 = .ok (.full 9) ∧
      told.2.share 2 = .error (.indexOutOfRange 2 2) := by
  intro moves array told
  have allocated : (SlotArray.allocate ⟨2⟩ 32 2 : Except Fault (SlotArray Nat)) = .ok array := by
    rfl
  obtain ⟨returned, kept, inside, outside, _⟩ := slots_behave_as_options allocated moves
  refine ⟨allocated, returned, returned.trans ?_, kept, ?_, ?_, outside 2 (Nat.le_refl 2)⟩
  · rfl
  · exact (inside 0 Nat.two_pos).trans rfl
  · exact (inside 1 Nat.one_lt_two).trans rfl

end LinearStore
