import LinearStore.Allocation
import LinearStore.Proofs.Session.Names
import LinearStore.Session.Run

set_option autoImplicit false

namespace LinearStore

namespace Session

variable [Allocator] {α : Type} {session : Session α} {step : Step α}

theorem run_from_ok {answer : Option (Answer α)}
    (succeeded : (session.execute step).outcome = .ok answer) (number : Nat)
    (rest : List (Step α)) :
    session.runFrom number (step :: rest) =
      ((session.execute step).session.runFrom (number + 1) rest).after
        (session.execute step).events ⟨number, step.op, answer⟩ := by
  rw [runFrom]
  simp only [succeeded]

theorem run_from_error {fault : Fault} (failed : (session.execute step).outcome = .error fault)
    (number : Nat) (rest : List (Step α)) :
    session.runFrom number (step :: rest) =
      ⟨⟨[], some ⟨number, step.op, fault⟩⟩, (session.execute step).session,
        (session.execute step).events ++ [.stepFailed number step.op fault]⟩ := by
  rw [runFrom]
  simp only [failed]

theorem after_error {fault : Fault} (failed : (session.execute step).outcome = .error fault) :
    session.after step = session :=
  (execute_error failed).1

theorem deeds_ok {answer : Option (Answer α)}
    (succeeded : (session.execute step).outcome = .ok answer) (rest : List (Step α)) :
    session.deeds (step :: rest) =
      ⟨session, step, answer⟩ :: (session.execute step).session.deeds rest := by
  rw [deeds]
  simp only [succeeded]

theorem deeds_error {fault : Fault} (failed : (session.execute step).outcome = .error fault)
    (rest : List (Step α)) : session.deeds (step :: rest) = session.deeds rest := by
  rw [deeds]
  simp only [failed, (execute_error failed).1]

theorem succeeding_ok {answer : Option (Answer α)}
    (succeeded : (session.execute step).outcome = .ok answer) (rest : List (Step α)) :
    session.succeeding (step :: rest) = step :: (session.execute step).session.succeeding rest := by
  rw [succeeding, deeds_ok succeeded]
  rfl

theorem succeeding_error {fault : Fault}
    (failed : (session.execute step).outcome = .error fault) (rest : List (Step α)) :
    session.succeeding (step :: rest) = session.succeeding rest := by
  rw [succeeding, deeds_error failed]
  rfl

theorem run_all_cons (session : Session α) (step : Step α) (rest : List (Step α)) :
    session.runAll (step :: rest) = (session.after step).runAll rest := rfl

theorem run_all_error {fault : Fault} (failed : (session.execute step).outcome = .error fault)
    (rest : List (Step α)) : session.runAll (step :: rest) = session.runAll rest := by
  rw [run_all_cons, after_error failed]

-- Steps are tried one after the other: one that fails is passed over, and one that succeeds leads to
-- the session in which the rest is tried.
theorem tried_induction {motive : Session α → List (Step α) → Prop}
    (nil : ∀ session, motive session [])
    (failed : ∀ (session : Session α) (step : Step α) (rest : List (Step α)) (fault : Fault),
      (session.execute step).outcome = .error fault → motive session rest →
        motive session (step :: rest))
    (succeeded : ∀ (session : Session α) (step : Step α) (rest : List (Step α))
      (answer : Option (Answer α)), (session.execute step).outcome = .ok answer →
        motive (session.execute step).session rest → motive session (step :: rest))
    (session : Session α) (steps : List (Step α)) : motive session steps := by
  induction steps generalizing session with
  | nil => exact nil session
  | cons step rest ih =>
      cases outcome : (session.execute step).outcome with
      | error fault => exact failed session step rest fault outcome (ih session)
      | ok answer => exact succeeded session step rest answer outcome (ih _)

-- What each successful step keeps, given the deeds so far, holds after all of them.
theorem deeds_keep (kept : List (Deed α) → Session α → Prop)
    (keeps : ∀ {log : List (Deed α)} {session next : Session α} {step : Step α}
      {answer : Option (Answer α)}, kept log session → step.validate session.state = .ok () →
        session.Effect step answer next → kept (log ++ [⟨session, step, answer⟩]) next)
    (log : List (Deed α)) {session : Session α} (start : kept log session) (steps : List (Step α)) :
    kept (log ++ session.deeds steps) (session.runAll steps) := by
  induction session, steps using tried_induction generalizing log with
  | nil session =>
      rw [deeds, List.append_nil]
      exact start
  | failed session step rest fault outcome ih =>
      rw [deeds_error outcome, run_all_error outcome]
      exact ih log start
  | succeeded session step rest answer outcome ih =>
      obtain ⟨valid, effect⟩ := execute_ok outcome
      rw [deeds_ok outcome, List.append_cons]
      exact ih _ (keeps start valid effect)

theorem run_all_keeps (kept : Session α → Prop)
    (keeps : ∀ {session next : Session α} {step : Step α} {answer : Option (Answer α)},
      kept session → step.validate session.state = .ok () → session.Effect step answer next →
        kept next)
    {session : Session α} (start : kept session) (steps : List (Step α)) :
    kept (session.runAll steps) :=
  deeds_keep (fun _ => kept) keeps [] start steps

theorem deeds_obey {session : Session α} {steps : List (Step α)} {deed : Deed α}
    (done : deed ∈ session.deeds steps) :
    deed.before.config = session.config ∧
      ∃ next, deed.before.Effect deed.step deed.answer next := by
  induction session, steps using tried_induction with
  | nil session => exact absurd done List.not_mem_nil
  | failed session step rest fault outcome ih =>
      rw [deeds_error outcome] at done
      exact ih done
  | succeeded session step rest answer outcome ih =>
      have effect := (execute_ok outcome).2
      rw [deeds_ok outcome] at done
      rcases List.mem_cons.mp done with rfl | later
      · exact ⟨rfl, _, effect⟩
      · rw [← effect_config effect]
        exact ih later

omit [Allocator] in
theorem steps_count_cons (test : Step α → Bool) (step : Step α) (rest : List (Step α)) :
    (step :: rest).countP test = rest.countP test + (test step).toNat := by
  rw [List.countP_cons]
  cases test step <;> rfl

theorem succeeding_balance (count : Session α → Nat) (lowers raises : Step α → Bool)
    (changes : ∀ {session next : Session α} {step : Step α} {answer : Option (Answer α)},
      step.validate session.names.find? = .ok () → session.Effect step answer next →
        count next + (lowers step).toNat = count session + (raises step).toNat)
    (session : Session α) (steps : List (Step α)) :
    count (session.runAll steps) + (session.succeeding steps).countP lowers =
      count session + (session.succeeding steps).countP raises := by
  induction session, steps using tried_induction with
  | nil session => rfl
  | failed session step rest fault outcome ih =>
      rw [succeeding_error outcome, run_all_error outcome]
      exact ih
  | succeeded session step rest answer outcome ih =>
      obtain ⟨valid, effect⟩ := execute_ok outcome
      rw [← find_names] at valid
      have now := changes valid effect
      rw [run_all_cons, after, succeeding_ok outcome, steps_count_cons, steps_count_cons]
      omega

theorem run_succeeding (session : Session α) (steps : List (Step α)) (number : Nat) :
    (session.runFrom number (session.succeeding steps)).report.failure = none ∧
      (session.runFrom number (session.succeeding steps)).session = session.runAll steps := by
  induction session, steps using tried_induction generalizing number with
  | nil session => exact ⟨rfl, rfl⟩
  | failed session step rest fault outcome ih =>
      rw [succeeding_error outcome, run_all_error outcome]
      exact ih number
  | succeeded session step rest answer outcome ih =>
      rw [succeeding_ok outcome, run_from_ok outcome]
      exact ih (number + 1)

theorem run_all_succeeding (session : Session α) (steps : List (Step α)) :
    session.runAll (session.succeeding steps) = session.runAll steps := by
  induction session, steps using tried_induction with
  | nil session => rfl
  | failed session step rest fault outcome ih =>
      rw [succeeding_error outcome, run_all_error outcome]
      exact ih
  | succeeded session step rest answer outcome ih =>
      rw [succeeding_ok outcome, run_all_cons]
      exact ih

end Session

theorem failed_steps_leave_no_trace [Allocator] {α : Type} (session : Session α) :
    (∀ step fault, (session.execute step).outcome = .error fault →
      (session.execute step).session = session) ∧
    ∀ steps, (session.run (session.succeeding steps)).report.failure = none ∧
      (session.run (session.succeeding steps)).session = session.runAll steps ∧
      session.runAll (session.succeeding steps) = session.runAll steps := by
  refine ⟨fun step fault failed => (Session.execute_error failed).1, fun steps => ?_⟩
  obtain ⟨completed, ended⟩ := Session.run_succeeding session steps 0
  exact ⟨completed, ended, Session.run_all_succeeding session steps⟩

-- The swap has both the array and the slot out of the table when it finds its index out of range.
theorem failed_swap_leaves_no_trace :
    let session := (Session.new (⟨0, {}, true⟩ : Config Nat)).runAll
      [.allocRaw "l" 1, .put "l" 0 4, .give "m" 5, .give "spent" 6, .unwrap "spent"]
    let swap : Step Nat := .swapRaw "l" 1 "m" "old"
    (session.execute swap).outcome = .error (.indexOutOfRange 1 1) ∧
      (session.execute swap).session = session := by
  intro session swap
  have failed : (session.execute swap).outcome = .error (.indexOutOfRange 1 1) := rfl
  exact ⟨failed, (failed_steps_leave_no_trace session).1 swap _ failed⟩

end LinearStore
