import LinearStore.Custody.Action
import LinearStore.Proofs.LinearArray
import LinearStore.Proofs.SlotArray
import Mathlib.Tactic.Abel

set_option autoImplicit false

namespace LinearStore.Custody

-- Values came in that custody did not hold before, and values went out. The lost ones were dropped.
structure Transfer (custody : Custody) (brought taken : Multiset Tracked) (lost : List Tracked)
    (next : Custody) : Prop where
  held : (next.held : Multiset Tracked) + taken + lost = custody.held + brought
  dropped : next.dropped = custody.dropped ++ lost
  created : next.created = custody.created
  frozen : next.frozen = custody.frozen
  storages : next.storages = custody.storages

namespace Transfer

variable {custody between next : Custody} {brought taken broughtNext takenNext : Multiset Tracked}
  {lost lostNext : List Tracked}

theorem without_loss (held : (next.held : Multiset Tracked) + taken = custody.held + brought)
    (books : (next.dropped, next.created, next.frozen, next.storages) =
      (custody.dropped, custody.created, custody.frozen, custody.storages)) :
    Transfer custody brought taken [] next := by
  obtain ⟨dropped, created, frozen, storages⟩ :
      next.dropped = custody.dropped ∧ next.created = custody.created ∧
        next.frozen = custody.frozen ∧ next.storages = custody.storages := by
    simpa only [Prod.mk.injEq] using books
  refine ⟨?_, ?_, created, frozen, storages⟩
  · rw [Multiset.coe_nil, add_zero, held]
  · rw [dropped, List.append_nil]

theorem refl (custody : Custody) : Transfer custody 0 0 [] custody := without_loss rfl rfl

theorem trans (first : Transfer custody brought taken lost between)
    (second : Transfer between broughtNext takenNext lostNext next) :
    Transfer custody (brought + broughtNext) (taken + takenNext) (lost ++ lostNext) next where
  held := by
    have before := first.held
    have after := second.held
    rw [← Multiset.coe_add]
    calc (next.held : Multiset Tracked) + (taken + takenNext) + (lost + lostNext)
        = next.held + takenNext + lostNext + (taken + lost) := by abel
      _ = between.held + taken + lost + broughtNext := by rw [after]; abel
      _ = custody.held + (brought + broughtNext) := by rw [before, add_assoc]
  dropped := by rw [second.dropped, first.dropped, List.append_assoc]
  created := second.created.trans first.created
  frozen := second.frozen.trans first.frozen
  storages := second.storages.trans first.storages

theorem net (moved : Transfer custody brought taken lost next) {entered left : Multiset Tracked}
    (even : brought + left = taken + entered) : Transfer custody entered left lost next where
  held := by
    refine add_right_cancel (b := taken) ?_
    calc (next.held : Multiset Tracked) + left + lost + taken
        = next.held + taken + lost + left := by abel
      _ = custody.held + (brought + left) := by rw [moved.held, add_assoc]
      _ = custody.held + entered + taken := by rw [even]; abel
  dropped := moved.dropped
  created := moved.created
  frozen := moved.frozen
  storages := moved.storages

theorem settle (moved : Transfer custody brought taken lost next) (even : brought = taken) :
    Transfer custody 0 0 lost next :=
  moved.net (congrArg (fun values => values + 0) even)

end Transfer

theorem coe_held (custody : Custody) :
    (custody.held : Multiset Tracked) =
      custody.arrays.flatMap SlotArray.held + custody.sequences.flatMap LinearArray.elements +
        custody.hand + custody.rejected.flatMap (fun rejected => rejected.returned.held) +
        frozenElements custody.frozen := by
  simp only [held, Multiset.coe_add]

theorem coe_held_of_array (array : SlotArray Tracked) (values : List Tracked) :
    (Parcel.held { arrays := [array], values } : Multiset Tracked) = array.held + values := by
  simp [Parcel.held]

theorem coe_held_of_sequence (array : LinearArray Tracked) (values : List Tracked) :
    (Parcel.held { sequences := [array], values } : Multiset Tracked) =
      array.elements + values := by
  simp [Parcel.held]

section Moves

variable {custody : Custody} {place : Nat}

theorem transfer_keep (custody : Custody) (values : List Tracked) :
    Transfer custody values 0 [] (custody.keep values) := by
  refine .without_loss ?_ rfl
  simp only [coe_held, keep, ← Multiset.coe_add]
  abel

theorem transfer_drop (custody : Custody) (values : List Tracked) :
    Transfer custody values 0 values (custody.drop values) where
  held := by rw [add_zero]; rfl
  dropped := rfl
  created := rfl
  frozen := rfl
  storages := rfl

theorem transfer_refuse (custody : Custody) (rejected : Rejected Parcel) :
    Transfer custody rejected.returned.held 0 [] (custody.refuse rejected).1 := by
  refine .without_loss ?_ rfl
  simp only [coe_held, refuse, List.flatMap_append, List.flatMap_singleton, ← Multiset.coe_add]
  abel

theorem transfer_unpack (custody : Custody) (parcel : Parcel) :
    Transfer custody parcel.held 0 [] (custody.unpack parcel) := by
  refine .without_loss ?_ rfl
  rw [coe_held, coe_held, Parcel.held]
  simp only [unpack, List.flatMap_append, ← Multiset.coe_add]
  abel

theorem transfer_set_array {old : SlotArray Tracked} (found : custody.arrays[place]? = some old)
    (new : SlotArray Tracked) :
    Transfer custody new.held old.held [] (custody.setArray place new) := by
  refine .without_loss ?_ rfl
  have change := flat_map_set SlotArray.held found new
  simp only [coe_held, setArray]
  grind

theorem transfer_remove_array {old : SlotArray Tracked}
    (found : custody.arrays[place]? = some old) :
    Transfer custody 0 old.held [] (custody.removeArray place) := by
  refine .without_loss ?_ rfl
  have change := flat_map_erase_idx SlotArray.held found
  simp only [coe_held, removeArray]
  grind

theorem transfer_set_sequence {old : LinearArray Tracked}
    (found : custody.sequences[place]? = some old) (new : LinearArray Tracked) :
    Transfer custody new.elements old.elements [] (custody.setSequence place new) := by
  refine .without_loss ?_ rfl
  have change := flat_map_set LinearArray.elements found new
  simp only [coe_held, setSequence]
  grind

theorem transfer_remove_sequence {old : LinearArray Tracked}
    (found : custody.sequences[place]? = some old) :
    Transfer custody 0 old.elements [] (custody.removeSequence place) := by
  refine .without_loss ?_ rfl
  have change := flat_map_erase_idx LinearArray.elements found
  simp only [coe_held, removeSequence]
  grind

theorem transfer_remove_held {value : Tracked} (found : custody.hand[place]? = some value) :
    Transfer custody 0 {value} [] (custody.removeHeld place) := by
  refine .without_loss ?_ rfl
  have change := coe_erase_idx found
  simp only [coe_held, removeHeld]
  grind

theorem transfer_remove_rejected {rejected : Rejected Parcel}
    (found : custody.rejected[place]? = some rejected) :
    Transfer custody 0 rejected.returned.held [] (custody.removeRejected place) := by
  refine .without_loss ?_ rfl
  have change := flat_map_erase_idx (fun rejected => rejected.returned.held) found
  simp only [coe_held, removeRejected]
  grind

theorem transfer_refuse_array {array : SlotArray Tracked}
    (found : custody.arrays[place]? = some array) (fault : Fault) (values : List Tracked) :
    Transfer custody values 0 []
      ((custody.removeArray place).refuse ⟨fault, { arrays := [array], values }⟩).1 := by
  refine ((transfer_remove_array found).trans (transfer_refuse _ _)).net ?_
  rw [coe_held_of_array]
  abel

theorem transfer_refuse_sequence {array : LinearArray Tracked}
    (found : custody.sequences[place]? = some array) (fault : Fault) (values : List Tracked) :
    Transfer custody values 0 []
      ((custody.removeSequence place).refuse ⟨fault, { sequences := [array], values }⟩).1 := by
  refine ((transfer_remove_sequence found).trans (transfer_refuse _ _)).net ?_
  rw [coe_held_of_sequence]
  abel

end Moves

end LinearStore.Custody
