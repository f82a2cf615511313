import LinearStore.Proofs.Allocation
import LinearStore.Proofs.Session.Names
import LinearStore.Proofs.Session.Tightening

set_option autoImplicit false

namespace LinearStore

variable {α : Type}

theorem Step.validate_of_same_names {step variant : Step α} (uses : variant.uses = step.uses)
    (defines : variant.defines = step.defines) (state : String → Option NameState) :
    variant.validate state = step.validate state := by
  have releases : variant.releases = step.releases := by
    funext name
    rw [Step.releases, Step.releases, uses]
  rw [validate, validate, checkDefinition, checkDefinition, uses, defines, releases]

namespace Session

variable [Allocator] {session : Session α} {step : Step α}

theorem execute_error_iff (valid : step.validate session.state = .ok ()) (fault : Fault) :
    (session.execute step).outcome = .error fault ↔ session.Refuses step fault := by
  constructor
  · intro failed
    rcases (execute_error failed).2 with ⟨violation, invalid, _⟩ | ⟨_, refused⟩
    · cases valid.symm.trans invalid
    · exact refused
  · exact execute_of_refuses valid

theorem execute_ok_iff (valid : step.validate session.state = .ok ()) :
    (∃ answer, (session.execute step).outcome = .ok answer) ↔ ∀ fault, ¬ session.Refuses step fault := by
  constructor
  · rintro ⟨answer, succeeded⟩ fault refused
    cases succeeded.symm.trans (execute_of_refuses valid refused)
  · intro unrefused
    cases outcome : (session.execute step).outcome with
    | ok answer => exact ⟨answer, rfl⟩
    | error fault => exact absurd ((execute_error_iff valid fault).mp outcome) (unrefused fault)

theorem refuses_request_iff {length : UInt64} (requested : step.requests = some length)
    (fault : Fault) :
    session.Refuses step fault ↔
      session.config.limits.grant payloadBytes length.toNat = .error fault := by
  constructor
  · intro refused
    cases refused with
    | denied requested' denied =>
        cases requested.symm.trans requested'
        exact denied
    | outside addressed =>
        rw [Step.addresses_of_requests requested] at addressed
        cases addressed
    | _ => cases requested
  · intro denied
    obtain ⟨reason, rfl⟩ := Limits.grant_error denied
    exact .denied requested denied

end Session

theorem steps_fail_exactly_for_cause [Allocator] (session : Session α) (step : Step α) :
    (∀ violation, step.validate session.state = .error violation →
      violation.isNameLevel = true ∧
      ∀ (other : Session α) (variant : Step α), other.state = session.state →
        variant.uses = step.uses → variant.defines = step.defines →
        (other.execute variant).outcome = .error (.contractViolation violation)) ∧
    (step.validate session.state = .ok () →
      (∀ fault, (session.execute step).outcome = .error fault ↔ session.Refuses step fault) ∧
      ((∃ answer, (session.execute step).outcome = .ok answer) ↔
        ∀ fault, ¬ session.Refuses step fault) ∧
      (∀ fault, (session.execute step).outcome = .error fault → fault.isNameLevel = false) ∧
      ∀ length, step.requests = some length →
        ∀ fault, (session.execute step).outcome = .error fault ↔
          (session.config.limits.maxSlots < length ∧ fault =
            .allocation length.toNat (.overLimit session.config.limits.maxSlots.toNat)) ∨
          (length ≤ session.config.limits.maxSlots ∧
            Allocation.reserve Session.payloadBytes length.toNat = .error fault)) := by
  refine ⟨fun violation invalid => ⟨Step.validate_error_is_name_level invalid, ?_⟩, fun valid => ?_⟩
  · intro other variant states uses defines
    have invalid' : variant.validate other.state = .error violation := by
      rw [states, Step.validate_of_same_names uses defines, invalid]
    exact congrArg Execution.outcome (Session.execute_of_violation invalid')
  · refine ⟨Session.execute_error_iff valid, Session.execute_ok_iff valid, ?_, ?_⟩
    · intro fault failed
      exact Session.refuses_not_name_level ((Session.execute_error_iff valid fault).mp failed)
    · intro length requested fault
      rw [Session.execute_error_iff valid, Session.refuses_request_iff requested,
        Limits.grant_error_iff, UInt64.lt_iff_toNat_lt, UInt64.le_iff_toNat_le]

-- Each step here is wrong more than once: a name that nobody bound beside an index out of range and a
-- name that is taken, an index out of range where no slot is full, a length beyond the limit and beyond
-- all storage.
theorem steps_fail_exactly_for_cause_when_wrong_twice :
    let session : Session Nat := ⟨⟨0, ⟨2⟩, true⟩, Table.empty.insert "l" (.live (.lseq ⟨[.empty]⟩))⟩
    let swap : Step Nat := .swapRaw "l" 7 "ghost" "l"
    let unbound : Violation := .unknownBinding "ghost"
    let take : Step Nat := .take "l" 1
    let alloc : Step Nat := .alloc "s" 18446744073709551615
    let beyond : Fault := .allocation 18446744073709551615 (.overLimit 2)
    (swap.validate session.state = .error unbound ∧
      (session.execute swap).outcome = .error (.contractViolation unbound)) ∧
    (take.validate session.state = .ok () ∧
      (session.execute take).outcome = .error (.indexOutOfRange 1 1) ∧
      session.Refuses take (.indexOutOfRange 1 1)) ∧
    (alloc.validate session.state = .ok () ∧ alloc.requests = some 18446744073709551615 ∧
      (session.execute alloc).outcome = .error beyond) := by
  intro session swap unbound take alloc beyond
  have wrongName : swap.validate session.state = .error unbound := rfl
  have outside : (session.execute take).outcome = .error (.indexOutOfRange 1 1) := rfl
  have valid : take.validate session.state = .ok () := rfl
  have valid' : alloc.validate session.state = .ok () := rfl
  refine ⟨⟨wrongName, ?_⟩, ⟨valid, outside, ?_⟩, ⟨valid', rfl, ?_⟩⟩
  · exact ((steps_fail_exactly_for_cause session swap).1 unbound wrongName).2 session swap rfl rfl rfl
  · exact (((steps_fail_exactly_for_cause session take).2 valid).1 _).mp outside
  · refine (((steps_fail_exactly_for_cause session alloc).2 valid').2.2.2 _ rfl beyond).mpr ?_
    exact Or.inl ⟨by decide, rfl⟩

end LinearStore
