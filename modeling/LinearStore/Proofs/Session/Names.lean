import LinearStore.Proofs.Session.Execution
import LinearStore.Session.Run

set_option autoImplicit false

namespace LinearStore.Session

variable {α : Type}

@[simp] theorem names_new (config : Config α) : (new config).names = .empty := rfl

@[simp] theorem names_bind (session : Session α) (name : String) (binding : Binding α) :
    (session.bind name binding).names = session.names.insert name (.live binding.kind) :=
  Table.map_insert ..

@[simp] theorem names_consume (session : Session α) (name : String) (op : Op) :
    (session.consume name op).names = session.names.insert name (.consumed op) :=
  Table.map_insert ..

theorem find_names (session : Session α) : session.names.find? = session.state :=
  funext fun name => Table.find_map Entry.state session.bindings name

theorem live_linear_eq (session : Session α) :
    session.liveLinear = session.names.namesWhere NameState.isLiveLinear :=
  (Table.names_where_map Entry.state NameState.isLiveLinear session.bindings).symm

theorem state_of_holds {session : Session α} {name : String} {binding : Binding α}
    (found : session.Holds name binding) : session.state name = some (.live binding.kind) := by
  rw [state, found]
  rfl

theorem names_rebind {session : Session α} {name : String} {old : Binding α}
    (found : session.Holds name old) (new : Binding α) (same : new.kind = old.kind) :
    (session.bind name new).names = session.names := by
  have live : session.names.find? name = some (.live old.kind) := by
    rw [find_names, state_of_holds found]
  rw [names_bind, same, Table.insert_of_find live]

variable [Allocator] {session : Session α} {step : Step α}

theorem effect_names {answer : Option (Answer α)} {next : Session α}
    (effect : session.Effect step answer next) : next.names = step.applyNames session.names := by
  cases effect with
  | alloc | allocInit | allocRaw | give | empty => exact names_bind ..
  | get | length | select | peek | lengthRaw | shareRaw => rfl
  | set found | take found | put found => exact names_rebind found _ rfl
  | free | unwrap | discard | freeRaw | freeLseq => exact names_consume ..
  | unleash =>
      rw [names_bind, names_consume]
      rfl
  | swapRaw found =>
      have rebound := fun swapped => names_rebind found (.lseq swapped) rfl
      rw [names_bind, names_consume, rebound]
      rfl

theorem effect_config {answer : Option (Answer α)} {next : Session α}
    (effect : session.Effect step answer next) : next.config = session.config := by
  cases effect <;> rfl

theorem refuses_not_name_level {fault : Fault} (refused : session.Refuses step fault) :
    fault.isNameLevel = false := by
  cases refused <;> rfl

theorem execute_ok_names {answer : Option (Answer α)}
    (succeeded : (session.execute step).outcome = .ok answer) :
    step.validate session.names.find? = .ok () ∧
      (session.execute step).session.names = step.applyNames session.names := by
  obtain ⟨valid, effect⟩ := execute_ok succeeded
  rw [find_names]
  exact ⟨valid, effect_names effect⟩

theorem execute_name_level_error {fault : Fault}
    (failed : (session.execute step).outcome = .error fault)
    (nameLevel : fault.isNameLevel = true) :
    ∃ violation, step.validate session.names.find? = .error violation ∧
      fault = .contractViolation violation := by
  rw [find_names]
  rcases (execute_error failed).2 with broken | ⟨_, refused⟩
  · exact broken
  · rw [refuses_not_name_level refused] at nameLevel
    cases nameLevel

theorem execute_value_level_error {fault : Fault}
    (failed : (session.execute step).outcome = .error fault)
    (valueLevel : fault.isNameLevel = false) : step.validate session.names.find? = .ok () := by
  rw [find_names]
  rcases (execute_error failed).2 with ⟨violation, broken, rfl⟩ | ⟨valid, _⟩
  · have nameLevel := Step.validate_error_is_name_level broken
    rw [Fault.isNameLevel, nameLevel] at valueLevel
    cases valueLevel
  · exact valid

end LinearStore.Session
