import LinearStore.Session.Execute

set_option autoImplicit false

namespace LinearStore

structure Outcome (α : Type) where
  step : Nat
  op : Op
  answer : Option (Answer α)
deriving DecidableEq, Repr

structure Report (α : Type) where
  outcomes : List (Outcome α)
  failure : Option StepFailure
deriving DecidableEq, Repr

def Report.succeeded {α : Type} (report : Report α) : Bool := report.failure.isNone

structure Deed (α : Type) where
  before : Session α
  step : Step α
  answer : Option (Answer α)

structure Run (α : Type) where
  report : Report α
  session : Session α
  events : List Event

def Event.logged (level : Level) (message : String) (event : Event) : Bool :=
  decide (event.record.level = level ∧ event.record.message = message)

namespace Run

variable {α : Type}

def after (events : List Event) (outcome : Outcome α) (rest : Run α) : Run α :=
  ⟨⟨outcome :: rest.report.outcomes, rest.report.failure⟩, rest.session, events ++ rest.events⟩

end Run

namespace Session

variable [Allocator] {α : Type}

def runFrom (number : Nat) (session : Session α) : List (Step α) → Run α
  | [] => ⟨⟨[], none⟩, session, []⟩
  | step :: rest =>
      let execution := session.execute step
      match execution.outcome with
      | .ok answer =>
          (execution.session.runFrom (number + 1) rest).after execution.events
            ⟨number, step.op, answer⟩
      | .error fault =>
          ⟨⟨[], some ⟨number, step.op, fault⟩⟩, execution.session,
            execution.events ++ [.stepFailed number step.op fault]⟩

def run (session : Session α) (steps : List (Step α)) : Run α := session.runFrom 0 steps

-- Executes every step in turn and goes on after a failure.
def runAll (session : Session α) (steps : List (Step α)) : Session α :=
  steps.foldl Session.after session

-- The steps that succeed when all are tried in turn, each with the session that it found.
def deeds (session : Session α) : List (Step α) → List (Deed α)
  | [] => []
  | step :: rest =>
      let execution := session.execute step
      match execution.outcome with
      | .ok answer => ⟨session, step, answer⟩ :: execution.session.deeds rest
      | .error _ => execution.session.deeds rest

def succeeding (session : Session α) (steps : List (Step α)) : List (Step α) :=
  (session.deeds steps).map Deed.step

def eventLog (session : Session α) : List (Step α) → List Event
  | [] => []
  | step :: rest => (session.execute step).events ++ (session.after step).eventLog rest

end Session

end LinearStore
