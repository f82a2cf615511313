import LinearStore.Allocation
import LinearStore.Proofs.Custody.Frozen
import LinearStore.Proofs.Custody.Operations

set_option autoImplicit false

namespace LinearStore

namespace Custody

section Draws

variable {σ : Type}

theorem draw_tracking (ids : Provider σ UInt32) (count : Nat) (next : Nat × σ) :
    ((tracking ids).draw count next).1.map Tracked.serial = List.range' next.1 count ∧
      ((tracking ids).draw count next).2.1 = next.1 + count := by
  induction count generalizing next with
  | zero => exact ⟨rfl, rfl⟩
  | succ count step =>
    obtain ⟨serials, last⟩ := step (tracking ids next).2
    constructor
    · rw [Provider.draw, List.map_cons, serials]
      rfl
    · exact last.trans (Nat.succ_add_eq_add_succ next.1 count)

end Draws

def Action.mayDrop : Action → Bool
  | .release _ | .set .. | .freeSequence _ | .dropFrozen _ | .dropHeld _ | .giveUp _ => true
  | _ => false

-- Giving up a refusal hands out its fault, but is not refused itself.
def Action.refused (action : Action) (answer : Answer) : Bool :=
  match action with
  | .giveUp _ => false
  | _ => answer.isFault

-- What one action does to the books: new values come in with the next serials, lost ones are dropped.
structure Turn (custody : Custody) (born lost : List Tracked) (next : Custody) : Prop where
  held : (next.held : Multiset Tracked) + lost = custody.held + born
  dropped : next.dropped = custody.dropped ++ lost
  serials : born.map Tracked.serial = List.range' custody.created born.length
  created : next.created = custody.created + born.length
  sharing : Sharing next.frozen next.storages

section Turns

variable {custody next : Custody} {lost : List Tracked}

theorem Transfer.turn (moved : Transfer custody 0 0 lost next)
    (sharing : Sharing custody.frozen custody.storages) : Turn custody [] lost next where
  held := by simpa using moved.held
  dropped := moved.dropped
  serials := rfl
  created := moved.created
  sharing := by rwa [moved.frozen, moved.storages]

theorem turn_track (id : UInt32) (sharing : Sharing custody.frozen custody.storages) :
    Turn custody [⟨custody.created, id⟩] [] (custody.track id) where
  held := by
    simp only [coe_held, track, keep, ← Multiset.coe_add, Multiset.coe_nil]
    abel
  dropped := (List.append_nil _).symm
  serials := rfl
  created := rfl
  sharing := sharing

theorem transfer_allocate_array [Allocator] (custody : Custody) (limits : Limits) (length : Nat) :
    Transfer custody 0 0 [] (custody.allocateArray limits length).1 := by
  rw [allocateArray, SlotArray.allocate_eq]
  cases limits.grant Tracked.bytes length with
  | error fault => exact .refl custody
  | ok _ =>
    refine .without_loss ?_ rfl
    simp [coe_held, Except.map, SlotArray.held_replicate]

theorem turn_allocate_sequence [Allocator] {σ : Type} (limits : Limits) (ids : Provider σ UInt32)
    (state : σ) (length : Nat) (sharing : Sharing custody.frozen custody.storages) :
    ∃ born, Turn custody born [] (custody.allocateSequence limits ids state length).1 := by
  rw [allocateSequence, LinearArray.allocate]
  cases limits.grant Tracked.bytes length with
  | error fault => exact ⟨[], (Transfer.refl custody).turn sharing⟩
  | ok _ =>
    obtain ⟨serials, last⟩ := draw_tracking ids length (custody.created, state)
    have count := Provider.draw_length (tracking ids) length (custody.created, state)
    refine ⟨((tracking ids).draw length (custody.created, state)).1, ?_, ?_, ?_, ?_, sharing⟩
    · simp only [coe_held, List.flatMap_append, List.flatMap_singleton, ← Multiset.coe_add,
        Multiset.coe_nil]
      abel
    · exact (List.append_nil _).symm
    · rw [serials, count]
    · rw [count]
      exact last

theorem turn_unleash (place : Nat) (sharing : Sharing custody.frozen custody.storages) :
    Turn custody [] [] (custody.unleash place).1 := by
  rw [unleash]
  cases found : custody.sequences[place]? with
  | none => exact (Transfer.refl custody).turn sharing
  | some array =>
    have removed := flat_map_erase_idx LinearArray.elements found
    have added := Multiset.coe_eq_coe.mpr (frozen_elements_add_fresh sharing array.unleash)
    rw [← Multiset.coe_add] at added
    refine ⟨?_, (List.append_nil _).symm, rfl, rfl, sharing.add_fresh array.unleash⟩
    simp only [coe_held, removeSequence, Multiset.coe_nil]
    rw [added, ← removed, LinearArray.unleash]
    abel

theorem turn_share_frozen (place : Nat) (sharing : Sharing custody.frozen custody.storages) :
    Turn custody [] [] (custody.shareFrozen place).1 := by
  rw [shareFrozen]
  cases found : custody.frozen[place]? with
  | none => exact (Transfer.refl custody).turn sharing
  | some handle =>
    have member := List.mem_of_getElem? found
    have same := Multiset.coe_eq_coe.mpr (frozen_elements_add_copy sharing.coherent member)
    refine ⟨?_, (List.append_nil _).symm, rfl, rfl, sharing.of_subset ?_⟩
    · simp only [coe_held, same]
    · exact List.append_subset.mpr ⟨List.Subset.refl _, List.cons_subset.mpr ⟨member, List.nil_subset _⟩⟩

theorem turn_drop_frozen (place : Nat) (sharing : Sharing custody.frozen custody.storages) :
    ∃ lost, Turn custody [] lost (custody.dropFrozen place).1 ∧
      (custody.dropFrozen place).2.isFault = false := by
  rw [dropFrozen]
  cases found : custody.frozen[place]? with
  | none => exact ⟨[], (Transfer.refl custody).turn sharing, rfl⟩
  | some handle =>
    have erased := Multiset.coe_eq_coe.mpr (frozen_elements_erase sharing.coherent found)
    have remaining := sharing.of_subset (List.eraseIdx_subset (k := place))
    cases shared : (custody.frozen.eraseIdx place).any handle.sharesStorage with
    | true =>
      rw [shared] at erased
      refine ⟨[], ?_, rfl⟩
      simp only [shared, if_true]
      refine ⟨?_, (List.append_nil _).symm, rfl, rfl, remaining⟩
      simp only [coe_held, ← erased, if_true, List.nil_append]
    | false =>
      rw [shared] at erased
      refine ⟨handle.contents.elements, ?_, rfl⟩
      simp only [shared, Bool.false_eq_true, if_false]
      refine ⟨?_, rfl, rfl, rfl, remaining⟩
      simp only [coe_held, ← erased, drop, Bool.false_eq_true, if_false, ← Multiset.coe_add,
        Multiset.coe_nil]
      abel

theorem perform_turn [Allocator] (action : Action)
    (sharing : Sharing custody.frozen custody.storages) :
    ∃ born lost, Turn custody born lost (custody.perform action).1 ∧
      (lost = [] ∨
        action.mayDrop = true ∧ action.refused (custody.perform action).2 = false) := by
  have moved {lost} {next : Custody} (moves : Transfer custody 0 0 lost next) :
      Turn custody [] lost next := moves.turn sharing
  cases action with
  | track id => exact ⟨_, [], turn_track id sharing, Or.inl rfl⟩
  | allocateArray limits length =>
    exact ⟨[], [], moved (transfer_allocate_array custody limits length), Or.inl rfl⟩
  | swapRaw array index value =>
    exact ⟨[], [], moved (transfer_swap custody .taken array index value), Or.inl rfl⟩
  | swap array index value =>
    exact ⟨[], [], moved (transfer_swap custody .borrowed array index value), Or.inl rfl⟩
  | give array index value =>
    exact ⟨[], [], moved (transfer_give custody array index value), Or.inl rfl⟩
  | take array index => exact ⟨[], [], moved (transfer_take custody array index), Or.inl rfl⟩
  | free array => exact ⟨[], [], moved (transfer_free custody array), Or.inl rfl⟩
  | release array =>
    obtain ⟨lost, moves, accepted⟩ := transfer_release custody array
    exact ⟨[], lost, moved moves, Or.inr ⟨rfl, accepted⟩⟩
  | allocateSequence limits first length =>
    obtain ⟨born, turn⟩ := turn_allocate_sequence limits counting first length sharing
    exact ⟨born, [], turn, Or.inl rfl⟩
  | allocateListed limits ids =>
    obtain ⟨born, turn⟩ := turn_allocate_sequence limits listed ids ids.length sharing
    exact ⟨born, [], turn, Or.inl rfl⟩
  | set sequence index value =>
    obtain ⟨lost, moves, written⟩ := transfer_write custody sequence index value .dropped
    refine ⟨[], lost, moved moves, written.imp_right fun written => ⟨rfl, ?_⟩⟩
    exact congrArg Answer.isFault written.2
  | replace sequence index value =>
    obtain ⟨lost, moves, written⟩ := transfer_write custody sequence index value .kept
    exact ⟨[], lost, moved moves, Or.inl (written.resolve_right fun written => nomatch written.1)⟩
  | freeSequence sequence =>
    obtain ⟨lost, moves, accepted⟩ := transfer_free_sequence custody sequence
    exact ⟨[], lost, moved moves, Or.inr ⟨rfl, accepted⟩⟩
  | unleash sequence => exact ⟨[], [], turn_unleash sequence sharing, Or.inl rfl⟩
  | shareFrozen handle => exact ⟨[], [], turn_share_frozen handle sharing, Or.inl rfl⟩
  | dropFrozen handle =>
    obtain ⟨lost, turn, accepted⟩ := turn_drop_frozen handle sharing
    exact ⟨[], lost, turn, Or.inr ⟨rfl, accepted⟩⟩
  | dropHeld value =>
    obtain ⟨lost, moves, accepted⟩ := transfer_drop_held custody value
    exact ⟨[], lost, moved moves, Or.inr ⟨rfl, accepted⟩⟩
  | reclaim rejected => exact ⟨[], [], moved (transfer_reclaim custody rejected), Or.inl rfl⟩
  | giveUp rejected =>
    obtain ⟨lost, moves⟩ := transfer_give_up custody rejected
    exact ⟨[], lost, moved moves, Or.inr ⟨rfl, rfl⟩⟩

end Turns

-- Each serial handed out so far is that of one value, which is held in one place or was dropped.
structure Balanced (custody : Custody) : Prop where
  accounted : ((custody.held ++ custody.dropped).map Tracked.serial).Perm
    (List.range custody.created)
  sharing : Sharing custody.frozen custody.storages

theorem balanced_empty : Balanced empty where
  accounted := List.Perm.refl []
  sharing := sharing_nil 0

section Runs

variable {custody next : Custody} {born lost : List Tracked}

theorem Turn.perm (turn : Turn custody born lost next) :
    (next.held ++ next.dropped).Perm (custody.held ++ custody.dropped ++ born) := by
  have held := turn.held
  rw [← Multiset.coe_eq_coe, turn.dropped]
  simp only [← Multiset.coe_add]
  calc (next.held : Multiset Tracked) + (custody.dropped + lost)
      = next.held + lost + custody.dropped := by abel
    _ = custody.held + custody.dropped + born := by rw [held]; abel

theorem Turn.balanced (turn : Turn custody born lost next) (balanced : Balanced custody) :
    Balanced next where
  accounted := by
    have serials : (List.range next.created) =
        List.range custody.created ++ born.map Tracked.serial := by
      rw [turn.created, turn.serials, List.range_add, List.range'_eq_map_range]
    rw [serials]
    refine (turn.perm.map Tracked.serial).trans ?_
    rw [List.map_append]
    exact balanced.accounted.append_right _
  sharing := turn.sharing

theorem balanced_after [Allocator] (balanced : Balanced custody) (actions : List Action) :
    Balanced (custody.after actions) := by
  induction actions generalizing custody with
  | nil => exact balanced
  | cons action rest step =>
    obtain ⟨_, _, turn, _⟩ := perform_turn action balanced.sharing
    exact step (turn.balanced balanced)

theorem Balanced.length_eq (balanced : Balanced custody) :
    custody.held.length + custody.dropped.length = custody.created := by
  simpa using balanced.accounted.length_eq

theorem dropped_of_spared [Allocator] {action : Action} (balanced : Balanced custody)
    (spared : action.mayDrop = false ∨ action.refused (custody.perform action).2 = true) :
    (custody.perform action).1.dropped = custody.dropped := by
  obtain ⟨born, lost, turn, nothing | ⟨drops, accepted⟩⟩ := perform_turn action balanced.sharing
  · rw [turn.dropped, nothing, List.append_nil]
  · rcases spared with idle | refused
    · exact absurd (idle.symm.trans drops) Bool.false_ne_true
    · exact absurd (accepted.symm.trans refused) Bool.false_ne_true

end Runs

end Custody

theorem no_value_duplicated_or_lost [Allocator] (actions : List Custody.Action) :
    let custody := Custody.empty.after actions
    custody.dropped.length ≤ custody.created ∧
    custody.live = custody.held.length ∧
    (∀ serial < custody.created,
      ((custody.held ++ custody.dropped).map Tracked.serial).count serial = 1) ∧
    (∀ value ∈ custody.held ++ custody.dropped, value.serial < custody.created) ∧
    ∀ action : Custody.Action,
      action.mayDrop = false ∨ action.refused (custody.perform action).2 = true →
      (custody.perform action).1.dropped = custody.dropped := by
  intro custody
  have balanced : custody.Balanced := Custody.balanced_after Custody.balanced_empty actions
  have count := balanced.length_eq
  refine ⟨by omega, ?_, fun serial handedOut => ?_, fun value member => ?_, fun action spared => ?_⟩
  · rw [Custody.live]
    omega
  · rw [balanced.accounted.count_eq]
    exact List.count_eq_one_of_mem List.nodup_range (List.mem_range.mpr handedOut)
  · exact List.mem_range.mp (balanced.accounted.subset (List.mem_map_of_mem member))
  · exact Custody.dropped_of_spared balanced spared

-- Two values are still with a refusal, two are frozen behind two handles, one is in a slot, and only
-- the one that was overwritten has been dropped. A second refusal does not add to that.
theorem no_value_duplicated_or_lost_on_refusals :
    let actions : List Custody.Action :=
      [.track 7, .allocateArray {} 1, .swapRaw 0 3 (some 0), .reclaim 0, .give 0 0 0,
        .allocateListed {} [1, 2], .unleash 0, .shareFrozen 0, .allocateSequence {} 5 1, .track 9,
        .set 0 0 0, .track 8, .replace 0 4 0]
    let custody := Custody.empty.after actions
    let refused : Custody.Action := .take 0 1
    (custody.created = 6 ∧ custody.dropped = [⟨3, 5⟩] ∧ custody.rejected.length = 1 ∧
      custody.frozen.length = 2) ∧
    custody.live = custody.held.length ∧
    (4 < custody.created ∧
      ((custody.held ++ custody.dropped).map Tracked.serial).count 4 = 1) ∧
    (⟨3, 5⟩ ∈ custody.held ++ custody.dropped ∧ 3 < custody.created) ∧
    refused.refused (custody.perform refused).2 = true ∧
    (custody.perform refused).1.dropped = custody.dropped := by
  intro actions custody refused
  obtain ⟨_, live, once, handedOut, spared⟩ := no_value_duplicated_or_lost actions
  have state : custody.created = 6 ∧ custody.dropped = [⟨3, 5⟩] ∧ custody.rejected.length = 1 ∧
      custody.frozen.length = 2 := by decide +kernel
  have created : 4 < custody.created := by rw [state.1]; decide
  have overwritten : (⟨3, 5⟩ : Tracked) ∈ custody.held ++ custody.dropped := by
    rw [state.2.1]
    exact List.mem_append_right _ (List.mem_singleton_self _)
  have answered : refused.refused (custody.perform refused).2 = true := by decide +kernel
  exact ⟨state, live, ⟨created, once 4 created⟩, ⟨overwritten, handedOut _ overwritten⟩, answered,
    spared refused (Or.inr answered)⟩

end LinearStore
