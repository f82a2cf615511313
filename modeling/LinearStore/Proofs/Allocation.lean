import LinearStore.Allocation

set_option autoImplicit false

namespace LinearStore

-- Whether the machine has room for a block of slots. It is asked only for blocks that take something.
def Allocation.Granted [Allocator] (slotBytes length : Nat) : Prop :=
  length * slotBytes ≤ maxBytes ∧ (length * slotBytes = 0 ∨ Allocator.grants slotBytes length = true)

theorem Allocation.reserve_cases [Allocator] (slotBytes length : Nat) :
    (reserve slotBytes length = .ok () ∧ Granted slotBytes length) ∨
      ∃ reason, reserve slotBytes length = .error (.allocation length reason) ∧
        ¬ Granted slotBytes length ∧ (reason = .beyondCapacity ∨ reason = .exhausted) := by
  unfold reserve Granted
  by_cases beyond : length * slotBytes > maxBytes
  · rw [if_pos beyond]
    exact Or.inr ⟨_, rfl, fun granted => absurd granted.1 (Nat.not_le.mpr beyond), Or.inl rfl⟩
  · rw [if_neg beyond]
    by_cases room : length * slotBytes = 0 || Allocator.grants slotBytes length
    · rw [if_pos room]
      rw [Bool.or_eq_true, decide_eq_true_eq] at room
      exact Or.inl ⟨rfl, Nat.not_lt.mp beyond, room⟩
    · rw [if_neg room]
      rw [Bool.or_eq_true, decide_eq_true_eq] at room
      exact Or.inr ⟨_, rfl, fun granted => room granted.2, Or.inr rfl⟩

theorem Limits.le_default (length : UInt64) : length ≤ ({} : Limits).maxSlots :=
  UInt64.le_iff_toNat_le.mpr (Nat.le_of_lt_succ length.toNat_lt)

namespace Limits

theorem check_cases (limits : Limits) (length : Nat) :
    (limits.check length = .ok () ∧ length ≤ limits.maxSlots.toNat) ∨
      (limits.check length = .error (.allocation length (.overLimit limits.maxSlots.toNat)) ∧
        limits.maxSlots.toNat < length) := by
  by_cases exceeded : length > limits.maxSlots.toNat
  · exact Or.inr ⟨if_pos exceeded, exceeded⟩
  · exact Or.inl ⟨if_neg exceeded, Nat.not_lt.mp exceeded⟩

variable [Allocator] {limits : Limits} {length : Nat} {fault : Fault} (slotBytes : Nat)

theorem grant_of_exceeded (exceeded : limits.check length = .error fault) :
    limits.grant slotBytes length = .error fault := by
  rw [grant, exceeded]

theorem grant_of_within (within : limits.check length = .ok ()) :
    limits.grant slotBytes length = Allocation.reserve slotBytes length := by
  rw [grant, within]

theorem grant_error_iff (limits : Limits) (slotBytes length : Nat) (fault : Fault) :
    limits.grant slotBytes length = .error fault ↔
      (limits.maxSlots.toNat < length ∧
        fault = .allocation length (.overLimit limits.maxSlots.toNat)) ∨
      (length ≤ limits.maxSlots.toNat ∧ Allocation.reserve slotBytes length = .error fault) := by
  rcases limits.check_cases length with ⟨within, bounded⟩ | ⟨exceeded, beyond⟩
  · rw [grant_of_within slotBytes within]
    exact ⟨fun denied => Or.inr ⟨bounded, denied⟩, fun reason => reason.elim
      (fun beyond => absurd bounded (Nat.not_le.mpr beyond.1)) And.right⟩
  · rw [grant_of_exceeded slotBytes exceeded, Except.error.injEq, eq_comm]
    exact ⟨fun same => Or.inl ⟨beyond, same⟩, fun reason => reason.elim And.right
      fun within => absurd beyond (Nat.not_lt.mpr within.1)⟩

theorem grant_cases (limits : Limits) (slotBytes length : Nat) :
    (limits.grant slotBytes length = .ok () ∧
      length ≤ limits.maxSlots.toNat ∧ Allocation.Granted slotBytes length) ∨
    ∃ reason, limits.grant slotBytes length = .error (.allocation length reason) ∧
      ¬ (length ≤ limits.maxSlots.toNat ∧ Allocation.Granted slotBytes length) ∧
      (limits.maxSlots.toNat < length → reason = .overLimit limits.maxSlots.toNat) ∧
      (length ≤ limits.maxSlots.toNat → reason = .beyondCapacity ∨ reason = .exhausted) := by
  rcases limits.check_cases length with ⟨within, bounded⟩ | ⟨exceeded, beyond⟩
  · rw [grant_of_within slotBytes within]
    rcases Allocation.reserve_cases slotBytes length with
      ⟨reserved, granted⟩ | ⟨reason, denied, refused, own⟩
    · exact Or.inl ⟨reserved, bounded, granted⟩
    · exact Or.inr ⟨reason, denied, fun admitted => refused admitted.2,
        fun beyond => absurd bounded (Nat.not_le.mpr beyond), fun _ => own⟩
  · exact Or.inr ⟨_, grant_of_exceeded slotBytes exceeded,
      fun admitted => absurd beyond (Nat.not_lt.mpr admitted.1), fun _ => rfl,
      fun within => absurd beyond (Nat.not_lt.mpr within)⟩

theorem grant_error {slotBytes : Nat} (denied : limits.grant slotBytes length = .error fault) :
    ∃ reason, fault = .allocation length reason := by
  rcases grant_cases limits slotBytes length with ⟨granted, _⟩ | ⟨reason, refused, _⟩
  · cases granted.symm.trans denied
  · cases refused.symm.trans denied
    exact ⟨reason, rfl⟩

theorem le_of_grant {slotBytes : Nat} (granted : limits.grant slotBytes length = .ok ()) :
    length ≤ limits.maxSlots.toNat := by
  rcases grant_cases limits slotBytes length with ⟨_, bounded, _⟩ | ⟨reason, refused, _⟩
  · exact bounded
  · cases refused.symm.trans granted

end Limits

end LinearStore
