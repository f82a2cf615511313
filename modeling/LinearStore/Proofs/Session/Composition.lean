import LinearStore.Allocation
import LinearStore.Proofs.Session.History
import LinearStore.Proofs.Session.Reporting

set_option autoImplicit false

namespace LinearStore

variable {α : Type}

def Outcome.shift (offset : Nat) (outcome : Outcome α) : Outcome α :=
  { outcome with step := offset + outcome.step }

def StepFailure.shift (offset : Nat) (failure : StepFailure) : StepFailure :=
  { failure with step := offset + failure.step }

-- Only the event of a failed step carries a number.
def Event.shift (offset : Nat) : Event → Event
  | .stepFailed step op fault => .stepFailed (offset + step) op fault
  | event => event

namespace Run

def shift (offset : Nat) (run : Run α) : Run α :=
  ⟨⟨run.report.outcomes.map (Outcome.shift offset), run.report.failure.map (StepFailure.shift offset)⟩,
    run.session, run.events.map (Event.shift offset)⟩

def followedBy (first second : Run α) : Run α :=
  ⟨⟨first.report.outcomes ++ second.report.outcomes, second.report.failure⟩, second.session,
    first.events ++ second.events⟩

end Run

namespace Session

theorem shift_reported (offset : Nat) (session : Session α) (step : Step α) :
    (session.reported step).map (Event.shift offset) = session.reported step := by
  cases step with
  | free name | unleash name =>
      simp only [reported]
      cases session.seq name <;> rfl
  | freeRaw name | freeLseq name =>
      simp only [reported]
      cases session.lseq name with
      | error fault => rfl
      | ok array =>
          simp only [SlotArray.releaseEvents]
          cases array.fullCount <;> rfl
  | _ => rfl

variable [Allocator] {session : Session α}

theorem shift_events (offset : Nat) (session : Session α) (step : Step α) :
    (session.execute step).events.map (Event.shift offset) = (session.execute step).events := by
  cases outcome : (session.execute step).outcome with
  | ok answer =>
      rw [execute_ok_events outcome, List.map_cons, shift_reported]
      rfl
  | error fault =>
      refine (List.map_congr_left fun event member => ?_).trans (List.map_id _)
      rcases execute_error_events outcome event member with rfl | rfl | rfl <;> rfl

theorem run_from_shift (offset number : Nat) (session : Session α) (steps : List (Step α)) :
    session.runFrom (offset + number) steps = (session.runFrom number steps).shift offset := by
  induction session, steps using tried_induction generalizing number with
  | nil session => rfl
  | failed session step rest fault outcome ih =>
      rw [run_from_error outcome, run_from_error outcome]
      simp only [Run.shift, List.map_append, shift_events]
      rfl
  | succeeded session step rest answer outcome ih =>
      rw [run_from_ok outcome, run_from_ok outcome, Nat.add_assoc, ih]
      simp only [Run.shift, Run.after, List.map_append, shift_events]
      rfl

theorem run_from_append_of_failure {first : List (Step α)} {number : Nat}
    (failed : (session.runFrom number first).report.failure ≠ none) (second : List (Step α)) :
    session.runFrom number (first ++ second) = session.runFrom number first := by
  induction session, first using tried_induction generalizing number with
  | nil session => exact absurd rfl failed
  | failed session step rest fault outcome ih =>
      rw [List.cons_append, run_from_error outcome, run_from_error outcome]
  | succeeded session step rest answer outcome ih =>
      rw [run_from_ok outcome] at failed
      rw [List.cons_append, run_from_ok outcome, run_from_ok outcome, ih failed]

theorem run_from_append_of_success {first : List (Step α)} {number : Nat}
    (succeeded : (session.runFrom number first).report.failure = none) (second : List (Step α)) :
    session.runFrom number (first ++ second) =
      (session.runFrom number first).followedBy
        ((session.runFrom number first).session.runFrom (first.length + number) second) := by
  induction session, first using tried_induction generalizing number with
  | nil session =>
      rw [List.length_nil, Nat.zero_add]
      rfl
  | failed session step rest fault outcome ih =>
      rw [run_from_error outcome] at succeeded
      cases succeeded
  | succeeded session step rest answer outcome ih =>
      rw [run_from_ok outcome] at succeeded
      rw [List.cons_append, run_from_ok outcome, run_from_ok outcome, ih succeeded,
        List.length_cons, Nat.add_assoc, Nat.add_comm 1 number]
      simp only [Run.followedBy, Run.after, List.cons_append, List.append_assoc]

theorem run_from_outcomes {steps : List (Step α)} {number place : Nat} {outcome : Outcome α}
    (recorded : (session.runFrom number steps).report.outcomes[place]? = some outcome) :
    ∃ step answer, steps[place]? = some step ∧ outcome = ⟨number + place, step.op, answer⟩ ∧
      ((session.runAll (steps.take place)).execute step).outcome = .ok answer := by
  induction session, steps using tried_induction generalizing number place with
  | nil session => cases recorded
  | failed session step rest fault failed ih =>
      rw [run_from_error failed] at recorded
      cases recorded
  | succeeded session step rest answer succeeded ih =>
      rw [run_from_ok succeeded] at recorded
      cases place with
      | zero =>
          cases recorded
          exact ⟨step, answer, rfl, rfl, succeeded⟩
      | succ place =>
          obtain ⟨later, given, read, same, executed⟩ := ih recorded
          refine ⟨later, given, read, ?_, executed⟩
          rw [same, Nat.add_assoc, Nat.add_comm 1 place]

theorem run_from_session (session : Session α) (number : Nat) (steps : List (Step α)) :
    (session.runFrom number steps).session =
      session.runAll (steps.take (session.runFrom number steps).report.outcomes.length) := by
  induction session, steps using tried_induction generalizing number with
  | nil session => rfl
  | failed session step rest fault outcome ih =>
      rw [run_from_error outcome, (execute_error outcome).1]
      rfl
  | succeeded session step rest answer outcome ih =>
      rw [run_from_ok outcome]
      exact ih (number + 1)

theorem run_from_ends (session : Session α) (number : Nat) (steps : List (Step α)) :
    let run := session.runFrom number steps
    let count := run.report.outcomes.length
    (run.report.failure = none ∧ count = steps.length) ∨
      ∃ step fault, steps[count]? = some step ∧ (run.session.execute step).outcome = .error fault ∧
        run.report.failure = some ⟨number + count, step.op, fault⟩ := by
  induction session, steps using tried_induction generalizing number with
  | nil session => exact Or.inl ⟨rfl, rfl⟩
  | failed session step rest fault outcome ih =>
      rw [run_from_error outcome]
      refine Or.inr ⟨step, fault, rfl, ?_, rfl⟩
      rw [(execute_error outcome).1, outcome]
  | succeeded session step rest answer outcome ih =>
      rw [run_from_ok outcome]
      rcases ih (number + 1) with ⟨completed, all⟩ | ⟨later, fault, read, failed, same⟩
      · exact Or.inl ⟨completed, congrArg (· + 1) all⟩
      · refine Or.inr ⟨later, fault, read, failed, ?_⟩
        exact same.trans (by rw [Nat.add_assoc, Nat.add_comm 1]; rfl)

end Session

theorem runs_are_their_successful_prefixes [Allocator] (session : Session α)
    (steps : List (Step α)) :
    let run := session.run steps
    let count := run.report.outcomes.length
    (∀ place outcome, run.report.outcomes[place]? = some outcome →
      ∃ step answer, steps[place]? = some step ∧ outcome = ⟨place, step.op, answer⟩ ∧
        ((session.runAll (steps.take place)).execute step).outcome = .ok answer) ∧
    run.session = session.runAll (steps.take count) ∧
    (run.report.failure = none ↔ count = steps.length) ∧
    (count ≠ steps.length → ∃ step fault, steps[count]? = some step ∧
      (run.session.execute step).outcome = .error fault ∧
      run.report.failure = some ⟨count, step.op, fault⟩) ∧
    ∀ first second, steps = first ++ second →
      let opening := session.run first
      (opening.report.failure ≠ none → run = opening) ∧
      (opening.report.failure = none →
        run = opening.followedBy ((opening.session.run second).shift first.length)) := by
  intro run count
  have ends : (run.report.failure = none ∧ count = steps.length) ∨
      ∃ step fault, steps[count]? = some step ∧
        (run.session.execute step).outcome = .error fault ∧
        run.report.failure = some ⟨count, step.op, fault⟩ := by
    have stopped := Session.run_from_ends session 0 steps
    simp only [Nat.zero_add] at stopped
    exact stopped
  refine ⟨fun place outcome recorded => ?_, Session.run_from_session session 0 steps, ?_, ?_, ?_⟩
  · obtain ⟨step, answer, read, same, executed⟩ := Session.run_from_outcomes recorded
    rw [Nat.zero_add] at same
    exact ⟨step, answer, read, same, executed⟩
  · rcases ends with ⟨completed, all⟩ | ⟨step, fault, read, _, failed⟩
    · exact iff_of_true completed all
    · refine iff_of_false (fun completed => ?_) fun all => ?_
      · cases completed.symm.trans failed
      · rw [all, List.getElem?_eq_none (Nat.le_refl _)] at read
        cases read
  · intro unfinished
    rcases ends with ⟨_, all⟩ | stopped
    · exact absurd all unfinished
    · exact stopped
  · rintro first second rfl
    refine ⟨fun failed => Session.run_from_append_of_failure failed second, fun succeeded => ?_⟩
    refine (Session.run_from_append_of_success succeeded second).trans ?_
    exact congrArg (session.run first).followedBy (Session.run_from_shift first.length 0 _ second)

-- The second part of the run is cut short by its own second step, which finds the slot still full that
-- the first part filled. What would follow is not tried.
theorem runs_are_their_successful_prefixes_when_cut :
    let session := (Session.new (⟨0, {}, true⟩ : Config Nat)).runAll [.allocRaw "l" 1, .put "l" 0 4]
    let first : List (Step Nat) := [.give "m" 5, .swapRaw "l" 0 "m" "n"]
    let second : List (Step Nat) := [.unwrap "n", .put "l" 0 6, .discard "n"]
    let run := session.run (first ++ second)
    (run.report.outcomes.length ≠ (first ++ second).length ∧ run.report.outcomes.length = 3 ∧
      run.report.failure = some ⟨3, .put, .contractViolation (.slotOccupied 0)⟩ ∧
      ∃ step fault, (first ++ second)[run.report.outcomes.length]? = some step ∧
        (run.session.execute step).outcome = .error fault) ∧
    (run.report.outcomes[2]? = some ⟨2, .unwrap, some (.element 4)⟩ ∧
      ∃ answer, ((session.runAll first).execute (.unwrap "n")).outcome = .ok answer) ∧
    ((session.run first).report.failure = none ∧
      run = (session.run first).followedBy (((session.run first).session.run second).shift 2)) ∧
    session.run ((first ++ second) ++ [.empty "k"]) = run := by
  intro session first second run
  have unfinished : run.report.outcomes.length ≠ (first ++ second).length := by decide +kernel
  have counted : run.report.outcomes.length = 3 := by decide +kernel
  have stopped : run.report.failure = some ⟨3, .put, .contractViolation (.slotOccupied 0)⟩ := by
    decide +kernel
  have unwrapped : run.report.outcomes[2]? = some ⟨2, .unwrap, some (.element 4)⟩ := by
    decide +kernel
  have opened : (session.run first).report.failure = none := by decide +kernel
  obtain ⟨outcomes, _, _, failure, splits⟩ :=
    runs_are_their_successful_prefixes session (first ++ second)
  refine ⟨⟨unfinished, counted, stopped, ?_⟩, ⟨unwrapped, ?_⟩, ⟨opened, ?_⟩, ?_⟩
  · obtain ⟨step, fault, read, failed, _⟩ := failure unfinished
    exact ⟨step, fault, read, failed⟩
  · obtain ⟨step, answer, read, _, executed⟩ := outcomes 2 _ unwrapped
    cases read
    exact ⟨answer, executed⟩
  · exact (splits first second rfl).2 opened
  · obtain ⟨_, _, _, _, extended⟩ :=
      runs_are_their_successful_prefixes session ((first ++ second) ++ [.empty "k"])
    refine (extended (first ++ second) [.empty "k"] rfl).1 fun completed => ?_
    cases completed.symm.trans stopped

end LinearStore
