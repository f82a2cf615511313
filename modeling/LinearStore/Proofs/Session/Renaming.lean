import LinearStore.Allocation
import LinearStore.Proofs.Script.Renaming
import LinearStore.Proofs.Session.Names
import LinearStore.Proofs.Session.Translation
import Mathlib.Logic.Equiv.Basic

set_option autoImplicit false

namespace LinearStore

variable {α : Type}

namespace Step

variable {label : String → String} {step : Step α}

theorem addresses_rename {name : String} {index : UInt64}
    (addressed : step.addresses = some (name, index)) :
    (step.rename label).addresses = some (label name, index) := by
  cases step with
  | get | set | select | swapRaw | shareRaw | take | put =>
      cases addressed
      rfl
  | _ => cases addressed

theorem requests_rename : (step.rename label).requests = step.requests := by cases step <;> rfl

end Step

namespace Session

def rename (label : String → String) (session : Session α) : Session α :=
  ⟨session.config, session.bindings.rename label⟩

variable {label : String → String} (injective : Function.Injective label)

include injective

theorem bind_rename (session : Session α) (name : String) (binding : Binding α) :
    (session.rename label).bind (label name) binding = (session.bind name binding).rename label :=
  bindings_eq rfl (Table.rename_insert injective ..).symm

theorem consume_rename (session : Session α) (name : String) (op : Op) :
    (session.rename label).consume (label name) op = (session.consume name op).rename label :=
  bindings_eq rfl (Table.rename_insert injective ..).symm

theorem holds_rename {session : Session α} {name : String} {binding : Binding α}
    (found : session.Holds name binding) : (session.rename label).Holds (label name) binding :=
  (Table.find_rename injective ..).trans found

theorem state_rename (session : Session α) (name : String) :
    (session.rename label).state (label name) = session.state name := by
  rw [state, state, rename, Table.find_rename injective]

variable [Allocator] {session : Session α} {step : Step α}

theorem effect_rename {answer : Option (Answer α)} {next : Session α}
    (effect : session.Effect step answer next) :
    (session.rename label).Effect (step.rename label) answer (next.rename label) := by
  have held {name : String} {binding : Binding α} (found : session.Holds name binding) :
      (session.rename label).Holds (label name) binding := holds_rename injective found
  cases effect with
  | alloc granted =>
      rw [← bind_rename injective]
      exact .alloc granted
  | allocInit granted =>
      rw [← bind_rename injective]
      exact .allocInit granted
  | allocRaw granted =>
      rw [← bind_rename injective]
      exact .allocRaw granted
  | get found read => exact .get (held found) read
  | set found read =>
      rw [← bind_rename injective]
      exact .set (held found) read
  | length found => exact .length (held found)
  | free found =>
      rw [← consume_rename injective]
      exact .free (held found)
  | unleash found =>
      rw [← bind_rename injective, ← consume_rename injective]
      exact .unleash (held found)
  | select found read => exact .select (held found) read
  | give =>
      rw [← bind_rename injective]
      exact .give
  | empty =>
      rw [← bind_rename injective]
      exact .empty
  | peek found => exact .peek (held found)
  | unwrap found =>
      rw [← consume_rename injective]
      exact .unwrap (held found)
  | discard found =>
      rw [← consume_rename injective]
      exact .discard (held found)
  | lengthRaw found => exact .lengthRaw (held found)
  | swapRaw found brought read =>
      rw [← bind_rename injective, ← consume_rename injective, ← bind_rename injective]
      exact .swapRaw (held found) (held brought) read
  | shareRaw found read => exact .shareRaw (held found) read
  | take found read =>
      rw [← bind_rename injective]
      exact .take (held found) read
  | put found read =>
      rw [← bind_rename injective]
      exact .put (held found) read
  | freeRaw found vacant =>
      rw [← consume_rename injective]
      exact .freeRaw (held found) vacant
  | freeLseq found vacant =>
      rw [← consume_rename injective]
      exact .freeLseq (held found) vacant

theorem refuses_rename {fault : Fault} (refused : session.Refuses step fault) :
    (session.rename label).Refuses (step.rename label) fault := by
  have held {name : String} {binding : Binding α} (found : session.Holds name binding) :
      (session.rename label).Holds (label name) binding := holds_rename injective found
  cases refused with
  | denied requested denied => exact .denied (Step.requests_rename.trans requested) denied
  | outside addressed found measured outside =>
      exact .outside (Step.addresses_rename addressed) (held found) measured outside
  | peek found => exact .peek (held found)
  | unwrap found => exact .unwrap (held found)
  | take found read => exact .take (held found) read
  | put found read => exact .put (held found) read
  | freeRaw strict found occupied => exact .freeRaw strict (held found) occupied
  | freeLseq found occupied => exact .freeLseq (held found) occupied

-- A refusal for values speaks of no name, so renaming leaves it as it is.
def relabelling : Translation α α where
  session := rename label
  step := Step.rename label
  answer := id
  fault := Fault.rename label
  op := Step.op_rename
  valid valid := by
    rw [Step.validate_rename _ injective (state_rename injective _), valid]
    rfl
  invalid {before told violation} invalid := by
    refine ⟨violation.rename label, ?_, rfl⟩
    rw [Step.validate_rename _ injective (state_rename injective _), invalid]
    rfl
  effect {before next told given} effect := by
    rw [Option.map_id]
    exact effect_rename injective effect
  refuses refused := by
    rw [Fault.rename_of_value_level label (refuses_not_name_level refused)]
    exact refuses_rename injective refused

theorem relabelling_outcome : (relabelling injective (α := α)).outcome = id :=
  funext fun outcome => congrArg (Outcome.mk outcome.step outcome.op) Option.map_id_apply

end Session

theorem names_carry_no_meaning [Allocator] {label : String → String}
    (injective : Function.Injective label) (config : Config α) (script : Script α) :
    let renamed := script.rename label
    let first := (Session.new config).run script.steps
    let second := (Session.new config).run renamed.steps
    renamed.check = script.check.mapError (StepFailure.rename label) ∧
    second.report.outcomes = first.report.outcomes ∧
    second.report.failure = first.report.failure.map (StepFailure.rename label) ∧
    second.session.bindings.entries.Perm
      (first.session.bindings.entries.map fun entry => (label entry.1, entry.2)) ∧
    second.session.liveLinear.Perm (first.session.liveLinear.map label) ∧
    renamed.leaked.Perm (script.leaked.map label) := by
  intro renamed first second
  obtain ⟨report, ended⟩ :=
    (Session.relabelling injective).run_from 0 (Session.new config) script.steps
  have outcomes : second.report.outcomes = first.report.outcomes := by
    have relabelled := congrArg Report.outcomes report
    rwa [Session.relabelling_outcome injective, List.map_id] at relabelled
  have bindings : second.session.bindings = first.session.bindings.rename label :=
    congrArg Session.bindings ended
  refine ⟨Script.check_from_rename injective 0 .empty script.steps, outcomes,
    congrArg Report.failure report, ?_, ?_, Script.leaked_rename_perm injective script⟩
  · rw [bindings]
    exact Table.entries_rename_perm injective _
  · rw [Session.liveLinear, Session.liveLinear, bindings]
    exact Table.names_where_rename_perm injective _ _

-- The two labels change places and with them the order of the table. The failure speaks of the other
-- name, and nothing else differs.
theorem names_carry_no_meaning_when_exchanged :
    let label := Equiv.swap "a" "z"
    let config : Config Nat := ⟨0, {}, false⟩
    let script : Script Nat :=
      ⟨config, [.allocRaw "a" 1, .give "z" 5, .swapRaw "a" 0 "z" "old", .peek "z"]⟩
    let renamed := script.rename label
    let first := (Session.new config).run script.steps
    let second := (Session.new config).run renamed.steps
    let failure := fun name : String =>
      (⟨3, .peek, .contractViolation (.useAfterConsume name .swapRaw)⟩ : StepFailure)
    Function.Injective label ∧
    first.report.failure = some (failure "z") ∧ second.report.failure = some (failure "a") ∧
    renamed.check = .error (failure "a") ∧
    first.session.liveLinear = ["a", "old"] ∧ second.session.liveLinear.Perm ["z", "old"] := by
  intro label config script renamed first second failure
  have injective : Function.Injective label := label.injective
  have failed : first.report.failure = some (failure "z") := by decide +kernel
  have checked : script.check = .error (failure "z") := by decide +kernel
  have live : first.session.liveLinear = ["a", "old"] := by decide +kernel
  obtain ⟨check, _, failure', _, live', _⟩ := names_carry_no_meaning injective config script
  rw [failed] at failure'
  rw [checked] at check
  rw [live] at live'
  exact ⟨injective, failed, failure', check, live, live'⟩

end LinearStore
