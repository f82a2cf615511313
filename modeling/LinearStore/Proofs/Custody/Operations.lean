import LinearStore.Proofs.Custody.Transfer

set_option autoImplicit false

namespace LinearStore.Custody

def Answer.isFault : Answer → Bool
  | .fault _ => true
  | _ => false

section Arrays

variable {custody rest : Custody} {value : Option Nat} {slot : Slot Tracked}

-- What is brought in is in no place until the array takes it or refuses it.
theorem bring_eq_some (brought : custody.bring value = some (slot, rest)) :
    Transfer custody 0 slot.toList [] rest ∧ rest.arrays = custody.arrays := by
  cases value with
  | none =>
    obtain ⟨rfl, rfl⟩ := Prod.mk.inj (Option.some.inj brought)
    exact ⟨.refl custody, rfl⟩
  | some position =>
    obtain ⟨moved, found, pair⟩ := Option.map_eq_some_iff.mp brought
    obtain ⟨rfl, rfl⟩ := Prod.mk.inj pair
    exact ⟨transfer_remove_held found, rfl⟩

theorem transfer_swap (custody : Custody) (access : Access) (place index : Nat)
    (value : Option Nat) :
    Transfer custody 0 0 [] (custody.swap access place index value).1 := by
  rw [swap]
  cases found : custody.arrays[place]? with
  | none => exact .refl custody
  | some array =>
    cases brought : custody.bring value with
    | none => exact .refl custody
    | some pair =>
      obtain ⟨slot, rest⟩ := pair
      obtain ⟨left, same⟩ := bring_eq_some brought
      rw [← same] at found
      obtain outside | ⟨old, read⟩ := array.read_or_outside index
      · simp only [SlotArray.swap_of_outside outside]
        cases access with
        | borrowed =>
          exact (left.trans (transfer_refuse rest _)).settle (add_comm _ _)
        | taken =>
          exact (left.trans (transfer_refuse_array found _ slot.toList)).settle (add_comm _ _)
      · simp only [SlotArray.swap_of_read read]
        refine ((left.trans (transfer_set_array found _)).trans (transfer_keep _ _)).settle ?_
        have change := SlotArray.held_set read slot
        rw [zero_add, add_zero, change, add_comm]

theorem transfer_give (custody : Custody) (place index position : Nat) :
    Transfer custody 0 0 [] (custody.give place index position).1 := by
  rw [give]
  cases found : custody.arrays[place]? with
  | none => exact .refl custody
  | some array =>
    cases carried : custody.hand[position]? with
    | none => exact .refl custody
    | some value =>
      have left := transfer_remove_held carried
      have remaining : (custody.removeHeld position).arrays[place]? = some array := found
      have refused (fault : Fault) :
          Transfer custody 0 0 []
            (((custody.removeHeld position).removeArray place).refuse
              ⟨fault, { arrays := [array], values := [value] }⟩).1 :=
        (left.trans (transfer_refuse_array remaining fault [value])).settle (add_comm _ _)
      obtain outside | ⟨slot, read⟩ := array.read_or_outside index
      · simp only [SlotArray.give_of_outside outside]
        exact refused _
      · cases slot with
        | full old =>
          simp only [SlotArray.give_of_full read]
          exact refused _
        | empty =>
          simp only [SlotArray.give_of_empty read]
          refine (left.trans (transfer_set_array remaining _)).settle ?_
          have change : (SlotArray.held ⟨array.slots.set index (.full value)⟩ :
              Multiset Tracked) + 0 = array.held + {value} :=
            SlotArray.held_set read (.full value)
          rw [add_zero] at change
          rw [zero_add, change, add_comm]

theorem transfer_take (custody : Custody) (place index : Nat) :
    Transfer custody 0 0 [] (custody.take place index).1 := by
  rw [take]
  cases found : custody.arrays[place]? with
  | none => exact .refl custody
  | some array =>
    obtain outside | ⟨slot, read⟩ := array.read_or_outside index
    · simp only [SlotArray.take_of_outside outside]
      exact transfer_refuse_array found _ []
    · cases slot with
      | full value =>
        simp only [SlotArray.take_of_full read]
        refine ((transfer_set_array found _).trans (transfer_keep _ _)).settle ?_
        have change := SlotArray.held_set read .empty
        rw [add_zero]
        exact change.trans (add_zero _)
      | empty =>
        simp only [SlotArray.take_of_empty read]
        exact transfer_refuse_array found _ []

theorem transfer_release (custody : Custody) (place : Nat) :
    ∃ lost, Transfer custody 0 0 lost (custody.release place).1 ∧
      (custody.release place).2.isFault = false := by
  rw [release]
  cases found : custody.arrays[place]? with
  | none => exact ⟨[], .refl custody, rfl⟩
  | some array =>
    refine ⟨array.held, ?_, rfl⟩
    exact ((transfer_remove_array found).trans (transfer_drop _ _)).settle (add_comm _ _)

theorem transfer_free (custody : Custody) (place : Nat) :
    Transfer custody 0 0 [] (custody.free place).1 := by
  rw [free]
  cases found : custody.arrays[place]? with
  | none => exact .refl custody
  | some array =>
    by_cases vacant : array.fullCount = 0
    · simp only [SlotArray.free_of_vacant vacant, release, found]
      have removed := transfer_remove_array found
      rw [SlotArray.held_of_vacant vacant] at removed ⊢
      exact removed.trans (transfer_drop _ [])
    · simp only [SlotArray.free_of_occupied vacant]
      exact transfer_refuse_array found _ []

end Arrays

section Sequences

variable (custody : Custody) (place : Nat)

theorem transfer_write (index position : Nat) (displaced : Displaced) :
    ∃ lost, Transfer custody 0 0 lost (custody.write place index position displaced).1 ∧
      (lost = [] ∨ displaced = .dropped ∧
        (custody.write place index position displaced).2 = .content none) := by
  rw [write]
  cases found : custody.sequences[place]? with
  | none => exact ⟨[], .refl custody, Or.inl rfl⟩
  | some array =>
    cases carried : custody.hand[position]? with
    | none => exact ⟨[], .refl custody, Or.inl rfl⟩
    | some value =>
      have left := transfer_remove_held carried
      have remaining : (custody.removeHeld position).sequences[place]? = some array := found
      obtain outside | ⟨old, read⟩ := array.read_or_outside index
      · simp only [LinearArray.replace_of_outside outside]
        refine ⟨[], ?_, Or.inl rfl⟩
        exact (left.trans (transfer_refuse_sequence remaining _ [value])).settle (add_comm _ _)
      · have written := left.trans (transfer_set_sequence remaining ⟨array.elements.set index value⟩)
        have change := coe_set read value
        simp only [LinearArray.replace_of_read read]
        cases displaced with
        | dropped =>
          refine ⟨[old], ?_, Or.inr ⟨rfl, rfl⟩⟩
          refine (written.trans (transfer_drop _ [old])).settle ?_
          rw [zero_add, add_zero]
          exact change.trans (add_comm _ _)
        | kept =>
          refine ⟨[], ?_, Or.inl rfl⟩
          refine (written.trans (transfer_keep _ [old])).settle ?_
          rw [zero_add, add_zero]
          exact change.trans (add_comm _ _)

theorem transfer_free_sequence :
    ∃ lost, Transfer custody 0 0 lost (custody.freeSequence place).1 ∧
      (custody.freeSequence place).2.isFault = false := by
  rw [freeSequence]
  cases found : custody.sequences[place]? with
  | none => exact ⟨[], .refl custody, rfl⟩
  | some array =>
    refine ⟨array.elements, ?_, rfl⟩
    exact ((transfer_remove_sequence found).trans (transfer_drop _ _)).settle (add_comm _ _)

theorem transfer_drop_held :
    ∃ lost, Transfer custody 0 0 lost (custody.dropHeld place).1 ∧
      (custody.dropHeld place).2.isFault = false := by
  rw [dropHeld]
  cases found : custody.hand[place]? with
  | none => exact ⟨[], .refl custody, rfl⟩
  | some value =>
    refine ⟨[value], ?_, rfl⟩
    exact ((transfer_remove_held found).trans (transfer_drop _ _)).settle (add_comm _ _)

theorem transfer_reclaim : Transfer custody 0 0 [] (custody.reclaim place).1 := by
  rw [reclaim]
  cases found : custody.rejected[place]? with
  | none => exact .refl custody
  | some rejected =>
    exact ((transfer_remove_rejected found).trans (transfer_unpack _ _)).settle (add_comm _ _)

theorem transfer_give_up : ∃ lost, Transfer custody 0 0 lost (custody.giveUp place).1 := by
  rw [giveUp]
  cases found : custody.rejected[place]? with
  | none => exact ⟨[], .refl custody⟩
  | some rejected =>
    refine ⟨rejected.returned.held, ?_⟩
    exact ((transfer_remove_rejected found).trans (transfer_drop _ _)).settle (add_comm _ _)

end Sequences

end LinearStore.Custody
