import LinearStore.Allocation
import LinearStore.Proofs.Script.Discipline
import LinearStore.Proofs.Session.History
import LinearStore.Proofs.Session.Names

set_option autoImplicit false

namespace LinearStore

variable {α : Type}

namespace Script

theorem check_from_error_bound {steps : List (Step α)} {number : Nat} {names : Table NameState}
    {failure : StepFailure} (failed : checkFrom number names steps = .error failure) :
    number ≤ failure.step := by
  induction steps generalizing number names with
  | nil => cases failed
  | cons step rest ih =>
      cases valid : step.validate names.find? with
      | error violation =>
          rw [check_from_invalid valid] at failed
          cases failed
          exact Nat.le_refl number
      | ok _ =>
          rw [check_from_valid valid] at failed
          exact Nat.le_of_succ_le (ih failed)

end Script

namespace Session

open Script

variable [Allocator]

theorem check_of_run_success {steps : List (Step α)} {number : Nat} {session : Session α}
    (succeeded : (session.runFrom number steps).report.failure = none) :
    checkFrom number session.names steps = .ok () ∧
      (session.runFrom number steps).session.names =
        namesAfter session.names steps := by
  induction session, steps using tried_induction generalizing number with
  | nil session => exact ⟨rfl, rfl⟩
  | failed session step rest fault outcome ih =>
      rw [run_from_error outcome] at succeeded
      cases succeeded
  | succeeded session step rest answer outcome ih =>
      rw [run_from_ok outcome] at succeeded ⊢
      obtain ⟨valid, names⟩ := execute_ok_names outcome
      rw [check_from_valid valid, namesAfter, List.foldl_cons, ← names]
      exact ih succeeded

theorem check_of_name_level_failure {steps : List (Step α)} {number : Nat} {session : Session α}
    {failure : StepFailure}
    (failed : (session.runFrom number steps).report.failure = some failure)
    (nameLevel : failure.fault.isNameLevel = true) :
    checkFrom number session.names steps = .error failure := by
  induction session, steps using tried_induction generalizing number with
  | nil session => cases failed
  | failed session step rest fault outcome ih =>
      rw [run_from_error outcome] at failed
      cases failed
      obtain ⟨violation, invalid, rfl⟩ := execute_name_level_error outcome nameLevel
      exact check_from_invalid invalid number rest
  | succeeded session step rest answer outcome ih =>
      rw [run_from_ok outcome] at failed
      obtain ⟨valid, names⟩ := execute_ok_names outcome
      rw [check_from_valid valid, ← names]
      exact ih failed

-- The check goes on where the run had to stop, so it can only fail later.
theorem check_of_value_level_failure {steps : List (Step α)} {number : Nat} {session : Session α}
    {failure found : StepFailure}
    (failed : (session.runFrom number steps).report.failure = some failure)
    (valueLevel : failure.fault.isNameLevel = false)
    (checked : checkFrom number session.names steps = .error found) :
    failure.step < found.step := by
  induction session, steps using tried_induction generalizing number with
  | nil session => cases failed
  | failed session step rest fault outcome ih =>
      rw [run_from_error outcome] at failed
      cases failed
      rw [check_from_valid (execute_value_level_error outcome valueLevel)] at checked
      exact check_from_error_bound checked
  | succeeded session step rest answer outcome ih =>
      rw [run_from_ok outcome] at failed
      obtain ⟨valid, names⟩ := execute_ok_names outcome
      rw [check_from_valid valid, ← names] at checked
      exact ih failed checked

end Session

theorem check_agrees_with_run [Allocator] (script : Script α) (config : Config α) :
    let run := (Session.new config).run script.steps
    (script.check = .ok () →
      ∀ failure, run.report.failure = some failure → failure.fault.isNameLevel = false) ∧
    (∀ failure, run.report.failure = some failure → failure.fault.isNameLevel = true →
      script.check = .error failure) ∧
    (run.report.failure = none →
      script.check = .ok () ∧ script.leaked = run.session.liveLinear) ∧
    (∀ failure, run.report.failure = some failure → failure.fault.isNameLevel = false →
      ∀ found, script.check = .error found → failure.step < found.step) := by
  intro run
  have nameLevelFailure : ∀ failure, run.report.failure = some failure →
      failure.fault.isNameLevel = true → script.check = .error failure :=
    fun failure failed nameLevel => Session.check_of_name_level_failure failed nameLevel
  refine ⟨?_, nameLevelFailure, ?_, ?_⟩
  · intro checked failure failed
    cases nameLevel : failure.fault.isNameLevel with
    | false => rfl
    | true =>
        have refused := nameLevelFailure failure failed nameLevel
        rw [checked] at refused
        cases refused
  · intro succeeded
    obtain ⟨checked, names⟩ := Session.check_of_run_success succeeded
    refine ⟨checked, ?_⟩
    rw [Session.live_linear_eq]
    exact congrArg (Table.namesWhere NameState.isLiveLinear) names.symm
  · intro failure failed valueLevel found checked
    exact Session.check_of_value_level_failure failed valueLevel checked

-- A name in order whose slot is empty, a name used after it was consumed, a run that leaves an array
-- behind, and a run that stops before it comes to a name that nobody bound.
theorem check_agrees_with_run_on_slots :
    let config : Config Nat := ⟨0, {}, false⟩
    let run := fun script : Script Nat => (Session.new config).run script.steps
    let emptied : Script Nat := ⟨config, [.allocRaw "l" 1, .take "l" 0]⟩
    let reused : Script Nat := ⟨config, [.give "m" 7, .unwrap "m", .peek "m"]⟩
    let kept : Script Nat :=
      ⟨config, [.allocRaw "l" 1, .give "m" 5, .swapRaw "l" 0 "m" "m", .discard "m"]⟩
    let stopped : Script Nat := ⟨config, [.allocRaw "l" 1, .take "l" 3, .peek "old"]⟩
    let vacant : StepFailure := ⟨1, .take, .contractViolation (.slotEmpty 0)⟩
    let consumed : StepFailure := ⟨2, .peek, .contractViolation (.useAfterConsume "m" .unwrap)⟩
    let outside : StepFailure := ⟨1, .take, .indexOutOfRange 3 1⟩
    let unbound : StepFailure := ⟨2, .peek, .contractViolation (.unknownBinding "old")⟩
    (emptied.check = .ok () ∧ (run emptied).report.failure = some vacant ∧
      vacant.fault.isNameLevel = false) ∧
    ((run reused).report.failure = some consumed ∧ consumed.fault.isNameLevel = true ∧
      reused.check = .error consumed) ∧
    ((run kept).report.failure = none ∧
      kept.check = .ok () ∧ kept.leaked = (run kept).session.liveLinear) ∧
    ((run stopped).report.failure = some outside ∧ outside.fault.isNameLevel = false ∧
      stopped.check = .error unbound ∧ outside.step < unbound.step) := by
  intro config run emptied reused kept stopped vacant consumed outside unbound
  refine ⟨⟨rfl, rfl, ?_⟩, ⟨rfl, rfl, ?_⟩, ⟨rfl, ?_⟩, ⟨rfl, rfl, rfl, ?_⟩⟩
  · exact (check_agrees_with_run emptied config).1 rfl vacant rfl
  · exact (check_agrees_with_run reused config).2.1 consumed rfl rfl
  · exact (check_agrees_with_run kept config).2.2.1 rfl
  · exact (check_agrees_with_run stopped config).2.2.2 outside rfl rfl unbound rfl

end LinearStore
