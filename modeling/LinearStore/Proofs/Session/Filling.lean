import LinearStore.Allocation
import LinearStore.Proofs.Allocation
import LinearStore.Proofs.LinearArray
import LinearStore.Proofs.Session.Causes
import Mathlib.Data.List.Basic

set_option autoImplicit false

namespace LinearStore

variable {α : Type}

namespace LinearArray

variable [Allocator]

theorem allocate_init_eq (slotBytes length : Nat) (value : α) :
    allocateInit slotBytes length value =
      (Allocation.reserve slotBytes length).map fun _ => ⟨List.replicate length value⟩ := by
  rw [allocateInit]
  cases Allocation.reserve slotBytes length <;> rfl

-- The default limit lets every word through, so it is the machine that decides.
theorem allocate_init_eq_allocate (slotBytes : Nat) (length : UInt64) (value : α) :
    allocateInit slotBytes length.toNat value =
      (allocate {} slotBytes (.constant value) length.toNat ()).1 := by
  have within : ({} : Limits).check length.toNat = .ok () :=
    if_neg (Nat.not_lt.mpr (UInt64.le_iff_toNat_le.mp (Limits.le_default length)))
  rw [allocate_init_eq, allocate_constant, Limits.grant_of_within slotBytes within]

end LinearArray

namespace Session

def withDefault (session : Session α) (value : α) : Session α :=
  { session with config := { session.config with defaultValue := value } }

variable [Allocator] (session : Session α) (name : String) (length : UInt64) (value : α)

theorem execute_alloc_init_eq :
    (session.execute (.allocInit name length value)).outcome =
        ((session.withDefault value).execute (.alloc name length)).outcome ∧
      (session.execute (.allocInit name length value)).session.withDefault value =
        ((session.withDefault value).execute (.alloc name length)).session := by
  have checked : (Step.allocInit name length value).validate session.state =
      (Step.alloc name length : Step α).validate (session.withDefault value).state :=
    Step.validate_of_same_names rfl rfl session.state
  cases valid : (Step.alloc name length : Step α).validate (session.withDefault value).state with
  | error violation =>
      rw [execute_of_violation (checked.trans valid), execute_of_violation valid]
      exact ⟨rfl, rfl⟩
  | ok _ =>
      rcases session.config.limits.grant_cases payloadBytes length.toNat with
        ⟨granted, _⟩ | ⟨reason, denied, _⟩
      · have defaulted : (session.withDefault value).Effect (.alloc name length) none _ := .alloc granted
        have initialised : session.Effect (.allocInit name length value) none _ := .allocInit granted
        obtain ⟨made, bound⟩ := execute_of_effect (checked.trans valid) initialised
        obtain ⟨made', bound'⟩ := execute_of_effect valid defaulted
        rw [made, made', bound, bound']
        exact ⟨rfl, rfl⟩
      · have failed := execute_of_refuses (checked.trans valid) (.denied rfl denied)
        have failed' : ((session.withDefault value).execute (.alloc name length)).outcome = _ :=
          execute_of_refuses valid (.denied rfl denied)
        rw [failed, failed', (execute_error failed).1, (execute_error failed').1]
        exact ⟨rfl, rfl⟩

end Session

theorem filling_paths_agree [Allocator] :
    (∀ (slotBytes : Nat) (length : UInt64) (value : α),
      let copied := LinearArray.allocateInit slotBytes length.toNat value
      copied = (LinearArray.allocate {} slotBytes (.constant value) length.toNat ()).1 ∧
      (copied = .ok ⟨List.replicate length.toNat value⟩ ∨ ∃ fault, copied = .error fault)) ∧
    (∀ (session : Session α) (name : String) (length : UInt64) (value : α),
      let initialised := session.execute (.allocInit name length value)
      let defaulted := (session.withDefault value).execute (.alloc name length)
      initialised.outcome = defaulted.outcome ∧
      initialised.session.bindings = defaulted.session.bindings) := by
  refine ⟨fun slotBytes length value => ⟨LinearArray.allocate_init_eq_allocate .., ?_⟩,
    fun session name length value => ?_⟩
  · rw [LinearArray.allocate_init_eq]
    cases Allocation.reserve slotBytes length.toNat with
    | ok _ => exact Or.inl rfl
    | error fault => exact Or.inr ⟨fault, rfl⟩
  · obtain ⟨same, sessions⟩ := session.execute_alloc_init_eq name length value
    exact ⟨same, (congrArg Session.bindings sessions : (Session.withDefault _ value).bindings = _)⟩

-- A length that is granted, one that the machine refuses, and one that the limits refuse.
theorem filling_paths_agree_on_grants_and_refusals :
    let session : Session Nat := .new ⟨0, ⟨3⟩, false⟩
    let exhausted : Fault := .allocation 1000000000000000 .exhausted
    let beyond : Fault := .allocation 4 (.overLimit 3)
    let made (length : UInt64) := LinearArray.allocateInit 32 length.toNat 7
    let provided (length : UInt64) :=
      (LinearArray.allocate {} 32 (.constant 7) length.toNat ()).1
    let initialised (length : UInt64) := session.execute (.allocInit "s" length 7)
    let defaulted (length : UInt64) := (session.withDefault 7).execute (.alloc "s" length)
    (made 2 = .ok ⟨[7, 7]⟩ ∧ provided 2 = .ok ⟨[7, 7]⟩) ∧
    (made 1000000000000000 = .error exhausted ∧ provided 1000000000000000 = .error exhausted) ∧
    ((initialised 2).outcome = .ok none ∧ (defaulted 2).outcome = .ok none ∧
      (initialised 2).session.Holds "s" (.seq ⟨[7, 7]⟩) ∧
      (defaulted 2).session.Holds "s" (.seq ⟨[7, 7]⟩)) ∧
    ((initialised 4).outcome = .error beyond ∧ (defaulted 4).outcome = .error beyond ∧
      (initialised 4).session.bindings = (defaulted 4).session.bindings) := by
  intro session exhausted beyond made provided initialised defaulted
  obtain ⟨arrays, steps⟩ := filling_paths_agree (α := Nat)
  have granted : made 2 = .ok ⟨[7, 7]⟩ := by decide +kernel
  have refused : made 1000000000000000 = .error exhausted := by decide +kernel
  have bound : (initialised 2).outcome = .ok none := by decide +kernel
  have held : (initialised 2).session.Holds "s" (.seq ⟨[7, 7]⟩) := by
    rw [Session.Holds]
    decide +kernel
  have limited : (initialised 4).outcome = .error beyond := by decide +kernel
  obtain ⟨sameBound, sameBindings⟩ := steps session "s" 2 7
  obtain ⟨sameLimited, keptBindings⟩ := steps session "s" 4 7
  have heldToo : (defaulted 2).session.Holds "s" (.seq ⟨[7, 7]⟩) := by
    rw [Session.Holds] at held ⊢
    rw [← sameBindings]
    exact held
  exact ⟨⟨granted, (arrays 32 2 7).1.symm.trans granted⟩,
    ⟨refused, (arrays 32 1000000000000000 7).1.symm.trans refused⟩,
    ⟨bound, sameBound.symm.trans bound, held, heldToo⟩,
    limited, sameLimited.symm.trans limited, keptBindings⟩

end LinearStore
