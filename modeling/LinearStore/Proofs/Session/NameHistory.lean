import LinearStore.Allocation
import LinearStore.Proofs.Script.Touch
import LinearStore.Proofs.Session.Check
import LinearStore.Proofs.Session.History

set_option autoImplicit false

namespace LinearStore

variable {α : Type}

namespace Script

theorem names_after_bound {names : Table NameState} {name : String}
    (bound : names.find? name ≠ none) (steps : List (Step α)) :
    (namesAfter names steps).find? name ≠ none := by
  induction steps generalizing names with
  | nil => exact bound
  | cons step rest ih =>
      have stillBound : (step.applyNames names).find? name ≠ none := by
        cases touched : step.touches name with
        | true =>
            rw [Step.find_apply_names_of_touches touched]
            exact Option.some_ne_none _
        | false =>
            rw [Step.find_apply_names_of_untouched touched]
            exact bound
      exact ih stillBound

-- A consumed name cannot be consumed again, so only a definition can lift the mark.
theorem names_after_consumed {names : Table NameState} {name : String} {op : Op}
    {steps : List (Step α)} (disciplined : Disciplined names steps)
    (consumed : names.find? name = some (.consumed op))
    (kept : ∀ step ∈ steps, step.definesName name = false) :
    (namesAfter names steps).find? name = some (.consumed op) := by
  induction steps generalizing names with
  | nil => exact consumed
  | cons step rest ih =>
      obtain ⟨valid, later⟩ := disciplined
      have keeps : step.releases name ≠ true := by
        refine Step.not_releases_of_dead valid fun kind live => ?_
        cases consumed.symm.trans live
      have same := Step.find_apply_names_of_not_defined (kept step List.mem_cons_self) names
      rw [if_neg keeps] at same
      have keptLater := fun later member => kept later (List.mem_cons_of_mem step member)
      exact ih later (same.trans consumed) keptLater

end Script

namespace Session

open Script

variable [Allocator]

theorem names_run_succeeding (session : Session α) (steps : List (Step α)) :
    Disciplined session.names (session.succeeding steps) ∧
      (session.runAll steps).names = namesAfter session.names (session.succeeding steps) := by
  obtain ⟨runs, ended⟩ := run_succeeding session steps 0
  obtain ⟨checked, names⟩ := check_of_run_success runs
  rw [ended] at names
  exact ⟨(check_from_eq_ok_iff ..).mp checked, names⟩

theorem succeeding_disciplined (session : Session α) (steps : List (Step α)) :
    Disciplined session.names (session.succeeding steps) :=
  (names_run_succeeding session steps).1

theorem names_run_all (session : Session α) (steps : List (Step α)) :
    (session.runAll steps).names = namesAfter session.names (session.succeeding steps) :=
  (names_run_succeeding session steps).2

theorem names_run_from (session : Session α) (number : Nat) (steps : List (Step α)) :
    (session.runFrom number steps).session.names =
      namesAfter session.names
        (steps.take (session.runFrom number steps).report.outcomes.length) := by
  induction session, steps using tried_induction generalizing number with
  | nil session => rfl
  | failed session step rest fault outcome ih =>
      rw [run_from_error outcome, (execute_error outcome).1]
      rfl
  | succeeded session step rest answer outcome ih =>
      rw [run_from_ok outcome]
      obtain ⟨_, names⟩ := execute_ok_names outcome
      have later := ih (number + 1)
      rw [names] at later
      exact later

theorem state_run_all_bound {session : Session α} {name : String}
    (bound : session.state name ≠ none) (steps : List (Step α)) :
    (session.runAll steps).state name ≠ none := by
  rw [← find_names] at bound ⊢
  rw [names_run_all]
  exact names_after_bound bound (session.succeeding steps)

theorem state_run_all_consumed {session : Session α} {name : String} {op : Op}
    {steps : List (Step α)} (consumed : session.state name = some (.consumed op))
    (kept : ∀ step ∈ session.succeeding steps, step.definesName name = false) :
    (session.runAll steps).state name = some (.consumed op) := by
  rw [← find_names] at consumed ⊢
  rw [names_run_all]
  exact names_after_consumed (succeeding_disciplined session steps) consumed kept

theorem consumer_of_consumed {config : Config α} {steps : List (Step α)} {name : String} {op : Op}
    (consumed : ((new config).runAll steps).state name = some (.consumed op)) :
    let log := (new config).succeeding steps
    ∃ place consumer, LatestToucher log name log.length place consumer ∧
      consumer.releases name = true ∧ consumer.definesName name = false ∧ consumer.op = op := by
  intro log
  rw [← find_names, names_run_all, names_new, ← names_before_length] at consumed
  obtain ⟨place, consumer, latest, other, sameOp⟩ := consumed_before_iff.mp consumed
  exact ⟨place, consumer, latest, Step.releases_of_touches latest.touches other, other, sameOp⟩

end Session

open Script in
theorem declared_name_effects_are_executed [Allocator] :
    (∀ (session : Session α) step answer, (session.execute step).outcome = .ok answer →
      (session.after step).state = (step.applyNames session.names).find? ∧
        session.state = session.names.find?) ∧
    ∀ (config : Config α) steps,
      let session := (Session.new config).runAll steps
      let log := (Session.new config).succeeding steps
      let run := (Session.new config).run steps
      session.state = (namesAfter .empty log).find? ∧
      run.session.state = (namesAfter .empty (steps.take run.report.outcomes.length)).find? ∧
      (∀ more name, session.state name ≠ none → (session.runAll more).state name ≠ none) ∧
      (∀ name op, session.state name = some (.consumed op) →
        ∃ place consumer, LatestToucher log name log.length place consumer ∧
          consumer.releases name = true ∧ consumer.definesName name = false ∧
          consumer.op = op) ∧
      ∀ more name op, session.state name = some (.consumed op) →
        (∀ step ∈ session.succeeding more, step.definesName name = false) →
        (session.runAll more).state name = some (.consumed op) := by
  refine ⟨fun session step answer succeeded => ?_, fun config steps => ?_⟩
  · obtain ⟨_, names⟩ := Session.execute_ok_names succeeded
    rw [← Session.find_names, ← Session.find_names, Session.after, names]
    exact ⟨rfl, rfl⟩
  · intro session log run
    refine ⟨?_, ?_, fun more name bound => Session.state_run_all_bound bound more,
      fun name op consumed => Session.consumer_of_consumed consumed,
      fun more name op consumed kept => Session.state_run_all_consumed consumed kept⟩
    · rw [← Session.find_names, Session.names_run_all]
      rfl
    · rw [← Session.find_names]
      exact congrArg Table.find? (Session.names_run_from (Session.new config) 0 steps)

-- The first session is none that steps can reach: it holds a name that was consumed by an operation
-- on a kind it could not have had. The second fails twice after the name was consumed, and only the
-- later definition lifts the mark.
theorem declared_name_effects_are_executed_by_swap :
    let config : Config Nat := ⟨0, {}, false⟩
    let session : Session Nat :=
      ⟨config, ((Table.empty.insert "l" (.live (.lseq ⟨[.full 4]⟩))).insert "m"
        (.live (.maybe (.full 5)))).insert "n" (.consumed .length)⟩
    let swap : Step Nat := .swapRaw "l" 0 "m" "m"
    let tried : List (Step Nat) := [.give "m" 5, .unwrap "m", .peek "m", .discard "m"]
    let ended := (Session.new config).runAll tried
    ((session.execute swap).outcome = .ok (some (.slot (.full 4))) ∧
      (session.after swap).state = (swap.applyNames session.names).find?) ∧
    (ended.state "m" = some (.consumed .unwrap) ∧
      (∃ place consumer, Script.LatestToucher ((Session.new config).succeeding tried) "m" 2 place
        consumer ∧ consumer.op = .unwrap) ∧
      (ended.runAll [.empty "n", .peek "m"]).state "m" = some (.consumed .unwrap)) := by
  intro config session swap tried ended
  have swapped : (session.execute swap).outcome = .ok (some (.slot (.full 4))) := rfl
  have consumed : ended.state "m" = some (.consumed .unwrap) := by
    decide +kernel
  have log : (Session.new config).succeeding tried = [.give "m" 5, .unwrap "m"] := by
    decide +kernel
  have more : ended.succeeding [.empty "n", .peek "m"] = [.empty "n"] := by
    decide +kernel
  refine ⟨⟨swapped, ?_⟩, consumed, ?_, ?_⟩
  · exact (declared_name_effects_are_executed.1 session swap _ swapped).1
  · obtain ⟨_, _, _, mark, _⟩ := declared_name_effects_are_executed.2 config tried
    obtain ⟨place, consumer, latest, _, _, sameOp⟩ := mark "m" .unwrap consumed
    rw [log] at latest ⊢
    exact ⟨place, consumer, latest, sameOp⟩
  · obtain ⟨_, _, _, _, stays⟩ := declared_name_effects_are_executed.2 config tried
    refine stays [.empty "n", .peek "m"] "m" .unwrap consumed ?_
    rw [more]
    decide

end LinearStore
