import LinearStore.Contract.Calls

set_option autoImplicit false

namespace LinearStore

theorem Contract.check_of_holds {contract : Contract} (holds : contract.Holds) :
    contract.check = .ok () :=
  if_pos holds

namespace Asserted

variable {σ α : Type}

theorem bind_of_ok {β γ : Type} {computation : Asserted β} {value : β}
    (same : computation = .ok value) (next : β → Asserted γ) :
    (computation >>= next) = next value := by
  rw [same]
  rfl

theorem return_of_ok {β γ : Type} {computation : Asserted β} {value : β}
    (same : computation = .ok value) (f : β → γ) :
    (do
      let found ← computation
      return f found) = .ok (f value) :=
  bind_of_ok same _

theorem load_of_lt {cells : List α} {index : Nat} (inside : index < cells.length) :
    load cells index = .ok cells[index] := by
  rw [load, List.getElem?_eq_getElem inside]

theorem exchange_of_lt {cells : List α} {index : Nat} (new : α) (inside : index < cells.length) :
    exchange cells index new = .ok (cells[index], cells.set index new) := by
  rw [exchange, load_of_lt inside]
  rfl

theorem slice_of_le {cells : List α} {start stop : Nat} (ordered : start ≤ stop)
    (inside : stop ≤ cells.length) :
    slice cells start stop = .ok ((cells.drop start).take (stop - start)) := by
  rw [slice, if_neg (Nat.not_lt.mpr ordered), if_neg (Nat.not_lt.mpr inside)]

theorem allocate_eq [Allocator] (limits : Limits) (slotBytes : Nat) (provider : Provider σ α)
    (length : Nat) (state : σ) :
    allocate limits slotBytes provider length state =
      .ok (LinearArray.allocate limits slotBytes provider length state) := by
  cases granted : limits.grant slotBytes length with
  | error fault => simp only [allocate, LinearArray.allocate, granted]
  | ok _ =>
      have filled : (Contract.allocated "seq_alloc" length
          (provider.draw length state).1.length).check = .ok () :=
        Contract.check_of_holds (provider.draw_length length state).symm
      simp only [allocate, LinearArray.allocate, granted, filled, bind, Except.bind, pure, Except.pure]

theorem allocate_init_eq [Allocator] (slotBytes length : Nat) (value : α) :
    allocateInit slotBytes length value =
      .ok (LinearArray.allocateInit slotBytes length value) := by
  cases reserved : Allocation.reserve slotBytes length with
  | error fault => simp only [allocateInit, LinearArray.allocateInit, reserved]
  | ok _ =>
      have filled : (Contract.allocated "seq_alloc_init" length
          (List.replicate length value).length).check = .ok () :=
        Contract.check_of_holds List.length_replicate.symm
      simp only [allocateInit, LinearArray.allocateInit, reserved, filled, bind, Except.bind, pure,
        Except.pure]

theorem allocate_slots_eq [Allocator] (limits : Limits) (slotBytes length : Nat) :
    (allocateSlots limits slotBytes length : Asserted (Except Fault (SlotArray α))) =
      .ok (SlotArray.allocate limits slotBytes length) := by
  cases granted : limits.grant slotBytes length with
  | error fault => simp only [allocateSlots, SlotArray.allocate, granted]
  | ok _ =>
      have filled : (Contract.allocated "lseq_alloc_raw" length
          (List.replicate length (Slot.empty : Slot α)).length).check = .ok () :=
        Contract.check_of_holds List.length_replicate.symm
      simp only [allocateSlots, SlotArray.allocate, granted, filled, bind, Except.bind, pure,
        Except.pure]

theorem replace_eq (array : LinearArray α) (index : Nat) (value : α) :
    replace array index value = .ok (array.replace index value) := by
  by_cases outside : array.length ≤ index
  · have refused : ¬ index < array.elements.length := Nat.not_lt.mpr outside
    rw [replace, if_pos outside, LinearArray.replace, dif_neg refused]
  · have inside : index < array.elements.length := Nat.not_le.mp outside
    have kept : (Contract.lengthPreserved "seq_set" array.length
        (array.elements.set index value).length).check = .ok () :=
      Contract.check_of_holds List.length_set.symm
    rw [replace, if_neg outside, LinearArray.replace, dif_pos inside]
    simp only [exchange_of_lt value inside, kept, bind, Except.bind, pure, Except.pure]

theorem set_eq (array : LinearArray α) (index : Nat) (value : α) :
    set array index value = .ok (array.set index value) := by
  exact return_of_ok (replace_eq array index value) (Except.map Prod.fst)

theorem swap_lent_eq (array : SlotArray α) (index : Nat) (new : Slot α) :
    swapLent array index new = .ok (array.swapLent index new) := by
  by_cases outside : array.length ≤ index
  · have refused : ¬ index < array.slots.length := Nat.not_lt.mpr outside
    rw [swapLent, if_pos outside, SlotArray.swapLent, dif_neg refused]
  · have inside : index < array.slots.length := Nat.not_le.mp outside
    have stillInside : index < (array.slots.set index new).length := by
      rw [List.length_set]
      exact inside
    have stored : load (array.slots.set index new) index = .ok new := by
      rw [load_of_lt stillInside, List.getElem_set_self]
    have asNew : (Contract.swapExact index new.isFull new.isFull).check = .ok () :=
      Contract.check_of_holds rfl
    have kept : (Contract.lengthPreserved "lseq_swap_raw" array.length
        (array.slots.set index new).length).check = .ok () :=
      Contract.check_of_holds List.length_set.symm
    rw [swapLent, if_neg outside, SlotArray.swapLent, dif_pos inside]
    simp only [exchange_of_lt new inside, stored, asNew, kept, bind, Except.bind, pure, Except.pure]

theorem swap_eq (array : SlotArray α) (index : Nat) (new : Slot α) :
    swap array index new = .ok (array.swap index new) :=
  return_of_ok (swap_lent_eq array index new) SlotArray.handOver

theorem take_eq (array : SlotArray α) (index : Nat) :
    take array index = .ok (array.take index) := by
  rw [take, swap_eq, SlotArray.take]
  rcases array.swap index .empty with rejected | ⟨rest, _ | _⟩ <;> rfl

-- The slot that is written is one that could be shared, so it lies inside.
theorem give_eq (array : SlotArray α) (index : Nat) (value : α) :
    give array index value = .ok (array.give index value) := by
  by_cases inside : index < array.slots.length
  · have shared : array.share index = .ok array.slots[index] := dif_pos inside
    rw [give, SlotArray.give, shared]
    cases array.slots[index] with
    | full _ => rfl
    | empty =>
        simp only [exchange_of_lt (.full value) inside, bind, Except.bind, pure, Except.pure]
  · have refused : array.share index = .error (array.outOfRange index) := dif_neg inside
    rw [give, SlotArray.give, refused]

theorem subsequence_eq (fresh : Nat) (handle : Handle α) (lo hi : Nat) :
    subsequence fresh handle lo hi = .ok (handle.subsequence fresh lo hi) := by
  have inside : min hi handle.contents.length ≤ handle.contents.elements.length :=
    Nat.min_le_right _ _
  simp only [subsequence, Handle.subsequence]
  split
  · rfl
  · simp only [slice_of_le (Nat.min_le_right lo _) inside, bind, Except.bind, pure, Except.pure]
    rfl

end Asserted

namespace Registers

open LinearStore.Asserted

variable {σ α : Type}

theorem asserted_on_seq_eq (registers : Registers σ α)
    {checked : LinearArray α → Asserted (Registers σ α × Reply α)}
    {call : LinearArray α → Registers σ α × Reply α}
    (same : ∀ array, checked array = .ok (call array)) :
    Asserted.onSeq registers checked = .ok (registers.onSeq call) := by
  rw [Asserted.onSeq, onSeq]
  cases registers.seq with
  | none => rfl
  | some array => exact same array

theorem asserted_on_lseq_eq (registers : Registers σ α)
    {checked : SlotArray α → Asserted (Registers σ α × Reply α)}
    {call : SlotArray α → Registers σ α × Reply α}
    (same : ∀ array, checked array = .ok (call array)) :
    Asserted.onLseq registers checked = .ok (registers.onLseq call) := by
  rw [Asserted.onLseq, onLseq]
  cases registers.lseq with
  | none => rfl
  | some array => exact same array

variable [Allocator] (elementBytes slotBytes : Nat)

theorem asserted_perform_eq (registers : Registers σ α) (call : Call σ α) :
    Asserted.perform elementBytes slotBytes registers call =
      .ok (registers.perform elementBytes slotBytes call) := by
  cases call with
  | alloc length provider => exact return_of_ok (allocate_eq ..) _
  | allocWith limits length provider => exact return_of_ok (allocate_eq ..) _
  | allocInit length value => exact return_of_ok (allocate_init_eq ..) _
  | allocRaw length => exact return_of_ok (allocate_slots_eq ..) _
  | allocRawWith limits length => exact return_of_ok (allocate_slots_eq ..) _
  | set index value =>
      exact asserted_on_seq_eq registers fun array => return_of_ok (set_eq ..) _
  | replace index value =>
      exact asserted_on_seq_eq registers fun array => return_of_ok (replace_eq ..) _
  | swap index new =>
      exact asserted_on_lseq_eq registers fun array => return_of_ok (swap_eq ..) _
  | swapLent index new =>
      exact asserted_on_lseq_eq registers fun array => return_of_ok (swap_lent_eq ..) _
  | take index =>
      exact asserted_on_lseq_eq registers fun array => return_of_ok (take_eq ..) _
  | give index value =>
      exact asserted_on_lseq_eq registers fun array => return_of_ok (give_eq ..) _
  | externSet index value =>
      refine asserted_on_seq_eq registers fun array => ?_
      cases Call.narrow index array.length with
      | error fault => rfl
      | ok index => exact return_of_ok (set_eq ..) _
  | externSwap index new =>
      refine asserted_on_lseq_eq registers fun array => ?_
      cases Call.narrow index array.length with
      | error fault => rfl
      | ok index => exact return_of_ok (swap_eq ..) _
  | free | freeChecked | freeRaw => rfl

theorem asserted_replies_eq (registers : Registers σ α) (calls : List (Call σ α)) :
    Asserted.replies elementBytes slotBytes registers calls =
      .ok (registers.replies elementBytes slotBytes calls) := by
  induction calls generalizing registers with
  | nil => rfl
  | cons call calls step =>
      simp only [Asserted.replies, asserted_perform_eq, step, bind, Except.bind, pure, Except.pure,
        replies]

end Registers

end LinearStore
