import LinearStore.Proofs.Session.Determinism
import LinearStore.Proofs.Session.History

set_option autoImplicit false

namespace LinearStore.Session

-- How sessions, steps, answers and faults are told, and that telling a step and taking it commute.
structure Translation [Allocator] (α β : Type) where
  session : Session α → Session β
  step : Step α → Step β
  answer : Answer α → Answer β
  fault : Fault → Fault
  op (told : Step α) : (step told).op = told.op
  valid {before : Session α} {told : Step α} (valid : told.validate before.state = .ok ()) :
    (step told).validate (session before).state = .ok ()
  invalid {before : Session α} {told : Step α} {violation : Violation}
    (invalid : told.validate before.state = .error violation) :
    ∃ counterpart, (step told).validate (session before).state = .error counterpart ∧
      .contractViolation counterpart = fault (.contractViolation violation)
  effect {before next : Session α} {told : Step α} {given : Option (Answer α)}
    (effect : before.Effect told given next) :
    (session before).Effect (step told) (given.map answer) (session next)
  refuses {before : Session α} {told : Step α} {reason : Fault}
    (refused : before.Refuses told reason) : (session before).Refuses (step told) (fault reason)

namespace Translation

variable [Allocator] {α β : Type} (translation : Translation α β)

def outcome (outcome : Outcome α) : Outcome β :=
  ⟨outcome.step, outcome.op, outcome.answer.map translation.answer⟩

def failure (failure : StepFailure) : StepFailure :=
  ⟨failure.step, failure.op, translation.fault failure.fault⟩

variable {session : Session α} {step : Step α}

theorem execute_ok {answer : Option (Answer α)}
    (succeeded : (session.execute step).outcome = .ok answer) :
    ((translation.session session).execute (translation.step step)).outcome =
        .ok (answer.map translation.answer) ∧
      ((translation.session session).execute (translation.step step)).session =
        translation.session (session.execute step).session := by
  obtain ⟨valid, effect⟩ := Session.execute_ok succeeded
  exact execute_of_effect (translation.valid valid) (translation.effect effect)

theorem execute_error {fault : Fault}
    (failed : (session.execute step).outcome = .error fault) :
    ((translation.session session).execute (translation.step step)).outcome =
        .error (translation.fault fault) ∧
      ((translation.session session).execute (translation.step step)).session =
        translation.session (session.execute step).session := by
  obtain ⟨unchanged, reason⟩ := Session.execute_error failed
  have failed' : ((translation.session session).execute (translation.step step)).outcome =
      .error (translation.fault fault) := by
    rcases reason with ⟨violation, invalid, rfl⟩ | ⟨valid, refused⟩
    · obtain ⟨counterpart, invalid', same⟩ := translation.invalid invalid
      rw [← same]
      exact congrArg Execution.outcome (execute_of_violation invalid')
    · exact execute_of_refuses (translation.valid valid) (translation.refuses refused)
  refine ⟨failed', ?_⟩
  rw [unchanged]
  exact (Session.execute_error failed').1

theorem run_from (number : Nat) (session : Session α) (steps : List (Step α)) :
    ((translation.session session).runFrom number (steps.map translation.step)).report =
        ⟨(session.runFrom number steps).report.outcomes.map translation.outcome,
          (session.runFrom number steps).report.failure.map translation.failure⟩ ∧
      ((translation.session session).runFrom number (steps.map translation.step)).session =
        translation.session (session.runFrom number steps).session := by
  induction session, steps using tried_induction generalizing number with
  | nil session => exact ⟨rfl, rfl⟩
  | failed session step rest fault outcome ih =>
      obtain ⟨outcome', left⟩ := translation.execute_error outcome
      rw [List.map_cons, run_from_error outcome, run_from_error outcome', left, translation.op]
      exact ⟨rfl, rfl⟩
  | succeeded session step rest answer outcome ih =>
      -- What is left after the first step is told like what was there before it.
      obtain ⟨outcome', left⟩ := translation.execute_ok outcome
      rw [List.map_cons, run_from_ok outcome, run_from_ok outcome', left, translation.op]
      obtain ⟨reports, ended⟩ := ih (number + 1)
      refine ⟨?_, ended⟩
      simp only [Run.after, reports, Translation.outcome, List.map_cons]

end Translation

end LinearStore.Session
