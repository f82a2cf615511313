import LinearStore.Allocation
import LinearStore.Proofs.Allocation
import LinearStore.Proofs.LinearArray.LastWriter
import LinearStore.Proofs.SlotArray

set_option autoImplicit false

namespace LinearStore

variable {σ α : Type}

namespace LinearArray

variable [Allocator] {limits : Limits} {slotBytes length : Nat} {fault : Fault}

theorem allocate_of_granted (granted : limits.grant slotBytes length = .ok ())
    (provider : Provider σ α) (state : σ) :
    allocate limits slotBytes provider length state =
      (.ok ⟨(provider.draw length state).1⟩, (provider.draw length state).2) := by
  rw [allocate, granted]

theorem allocate_of_denied (denied : limits.grant slotBytes length = .error fault)
    (provider : Provider σ α) (state : σ) :
    allocate limits slotBytes provider length state = (.error fault, state) := by
  rw [allocate, denied]

theorem allocate_recording (limits : Limits) (slotBytes length : Nat) (provider : Provider σ α)
    (state : σ) :
    allocate limits slotBytes provider length state =
      ((allocate limits slotBytes provider.recording length (state, [])).1,
        (allocate limits slotBytes provider.recording length (state, [])).2.1) := by
  cases granted : limits.grant slotBytes length with
  | ok _ => rw [allocate_of_granted granted, allocate_of_granted granted, Provider.draw_recording]
  | error fault => rw [allocate_of_denied granted, allocate_of_denied granted]

theorem allocate_recording_of_granted (granted : limits.grant slotBytes length = .ok ())
    (provider : Provider σ α) (state : σ) :
    allocate limits slotBytes provider.recording length (state, []) =
      (.ok ⟨(provider.draw length state).1⟩,
        (provider.memoryAfter state length, (provider.draw length state).1)) := by
  rw [allocate_of_granted granted, Provider.draw_recording, Provider.draw_memory, List.nil_append]

end LinearArray

theorem provider_called_once_per_slot [Allocator] (limits : Limits) (slotBytes : Nat)
    (length : UInt64) (provider : Provider σ α) (state : σ) :
    let admitted := length ≤ limits.maxSlots ∧ Allocation.Granted slotBytes length.toNat
    let filled := LinearArray.allocate limits slotBytes provider.recording length.toNat (state, [])
    LinearArray.allocate limits slotBytes provider length.toNat state = (filled.1, filled.2.1) ∧
    ((∃ array, filled.1 = .ok array) ↔ admitted) ∧
    (limits = {} → (admitted ↔ Allocation.Granted slotBytes length.toNat)) ∧
    (∀ array, filled.1 = .ok array →
      array.length = length.toNat ∧
      filled.2 = (provider.memoryAfter state length.toNat, array.elements) ∧
      ∀ index < length.toNat, array.elements[index]? = some (provider.nth state index)) ∧
    (∀ fault, filled.1 = .error fault →
      filled.2 = (state, []) ∧
      ∃ reason, fault = .allocation length.toNat reason ∧
        (limits.maxSlots < length → reason = .overLimit limits.maxSlots.toNat) ∧
        (length ≤ limits.maxSlots → reason = .beyondCapacity ∨ reason = .exhausted)) ∧
    (SlotArray.allocate limits slotBytes length.toNat : Except Fault (SlotArray α)) =
      filled.1.map fun _ => ⟨List.replicate length.toNat .empty⟩ := by
  intro admitted filled
  have unlimited : limits = {} → (admitted ↔ Allocation.Granted slotBytes length.toNat) := by
    rintro rfl
    exact and_iff_right (Limits.le_default length)
  refine ⟨LinearArray.allocate_recording .., ?_⟩
  simp only [admitted, UInt64.le_iff_toNat_le, UInt64.lt_iff_toNat_lt] at unlimited ⊢
  rcases limits.grant_cases slotBytes length.toNat with
    ⟨granted, bounded⟩ | ⟨reason, denied, refused, precedence⟩
  · have drawn : filled = _ := LinearArray.allocate_recording_of_granted granted provider state
    rw [drawn, SlotArray.allocate_eq, granted]
    refine ⟨iff_of_true ⟨_, rfl⟩ bounded, unlimited, ?_, nofun, rfl⟩
    rintro array ⟨⟩
    exact ⟨provider.draw_length .., rfl, fun index inside => provider.getElem?_draw inside state⟩
  · have untouched : filled = _ := LinearArray.allocate_of_denied denied provider.recording (state, [])
    rw [untouched, SlotArray.allocate_eq, denied]
    refine ⟨iff_of_false nofun refused, unlimited, nofun, ?_, rfl⟩
    rintro fault ⟨⟩
    exact ⟨rfl, reason, rfl, precedence⟩

-- A provider that counts its calls, for slots of which the machine has room for two. A third is refused
-- by the limit if there is one, and by the machine if not.
theorem provider_called_once_per_slot_at_the_limit :
    let tens : Provider Nat Nat := fun calls => (10 * calls, calls + 1)
    let half := Allocation.addressableBytes / 2
    let filled (limits : Limits) (length : Nat) :=
      LinearArray.allocate limits half tens.recording length (1, [])
    filled ⟨2⟩ 2 = (.ok ⟨[10, 20]⟩, 3, [10, 20]) ∧
    filled ⟨2⟩ 3 = (.error (.allocation 3 (.overLimit 2)), 1, []) ∧
    (filled {} 3).2 = (1, []) ∧
    ∃ reason, (LinearArray.allocate {} half tens 3 1).1 = .error (.allocation 3 reason) ∧
      (reason = .beyondCapacity ∨ reason = .exhausted) := by
  intro tens half filled
  have made : (filled ⟨2⟩ 2).1 = .ok ⟨[10, 20]⟩ := rfl
  have beyond : (filled ⟨2⟩ 3).1 = .error (.allocation 3 (.overLimit 2)) := rfl
  have refused : (filled {} 3).1 = .error (.allocation 3 .exhausted) := rfl
  obtain ⟨_, _, _, told, _⟩ := provider_called_once_per_slot ⟨2⟩ half 2 tens 1
  obtain ⟨_, _, _, _, limited, _⟩ := provider_called_once_per_slot ⟨2⟩ half 3 tens 1
  obtain ⟨plain, _, _, _, unlimited, _⟩ := provider_called_once_per_slot {} half 3 tens 1
  obtain ⟨untouched, reason, named, _, machine⟩ := unlimited _ refused
  exact ⟨Prod.ext made (told _ made).2.1, Prod.ext beyond (limited _ beyond).1, untouched, reason,
    (congrArg Prod.fst plain).trans (refused.trans (congrArg Except.error named)), machine (by decide)⟩

end LinearStore
