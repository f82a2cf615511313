import LinearStore.Proofs.Table
import LinearStore.Script.Basic

set_option autoImplicit false

namespace LinearStore

variable {α : Type}

namespace Violation

def rename (label : String → String) : Violation → Violation
  | useAfterConsume name op => useAfterConsume (label name) op
  | unknownBinding name => unknownBinding (label name)
  | kindMismatch name expected found => kindMismatch (label name) expected found
  | shadowed name kind => shadowed (label name) kind
  | violation => violation

theorem rename_of_value_level (label : String → String) {violation : Violation}
    (valueLevel : violation.isNameLevel = false) : violation.rename label = violation := by
  cases violation with
  | useAfterConsume | unknownBinding | kindMismatch | shadowed => cases valueLevel
  | _ => rfl

end Violation

namespace Fault

def rename (label : String → String) : Fault → Fault
  | contractViolation violation => contractViolation (violation.rename label)
  | fault => fault

theorem rename_of_value_level (label : String → String) {fault : Fault}
    (valueLevel : fault.isNameLevel = false) : fault.rename label = fault := by
  cases fault with
  | contractViolation violation =>
      exact congrArg contractViolation (Violation.rename_of_value_level label valueLevel)
  | indexOutOfRange | allocation => rfl

end Fault

def StepFailure.rename (label : String → String) (failure : StepFailure) : StepFailure :=
  ⟨failure.step, failure.op, failure.fault.rename label⟩

namespace Use

def rename (label : String → String) (use : Use) : Use := ⟨label use.name, use.kind, use.consumes⟩

variable {label : String → String} {state renamed : String → Option NameState}

theorem check_rename (use : Use) (found : Option NameState) :
    (use.rename label).check found = (use.check found).mapError (Violation.rename label) := by
  cases found with
  | none => rfl
  | some current =>
      cases current with
      | consumed op => rfl
      | live kind =>
          by_cases same : kind = use.kind <;>
            simp [check, rename, same, Except.mapError, Violation.rename]

theorem check_all_rename (same : ∀ name, renamed (label name) = state name) (uses : List Use) :
    checkAll renamed (uses.map (rename label)) =
      (checkAll state uses).mapError (Violation.rename label) := by
  induction uses with
  | nil => rfl
  | cons use rest step =>
      have here : renamed (use.rename label).name = state use.name := same use.name
      rw [List.map_cons, checkAll, checkAll, here, check_rename, step]
      cases use.check (state use.name) <;> rfl

end Use

namespace Step

def rename (label : String → String) : Step α → Step α
  | alloc name count => .alloc (label name) count
  | allocInit name count value => .allocInit (label name) count value
  | get seq index => .get (label seq) index
  | set seq index value => .set (label seq) index value
  | length seq => .length (label seq)
  | free seq => .free (label seq)
  | unleash seq into => .unleash (label seq) (label into)
  | select sequence index => .select (label sequence) index
  | give name value => .give (label name) value
  | empty name => .empty (label name)
  | peek maybe => .peek (label maybe)
  | unwrap maybe => .unwrap (label maybe)
  | discard maybe => .discard (label maybe)
  | allocRaw name count => .allocRaw (label name) count
  | lengthRaw lseq => .lengthRaw (label lseq)
  | swapRaw lseq index source into => .swapRaw (label lseq) index (label source) (label into)
  | shareRaw lseq index => .shareRaw (label lseq) index
  | take lseq index => .take (label lseq) index
  | put lseq index value => .put (label lseq) index value
  | freeRaw lseq => .freeRaw (label lseq)
  | freeLseq lseq => .freeLseq (label lseq)

variable {label : String → String} (step : Step α)

theorem op_rename : (step.rename label).op = step.op := by cases step <;> rfl

theorem uses_rename : (step.rename label).uses = step.uses.map (Use.rename label) := by
  cases step <;> rfl

theorem defines_rename :
    (step.rename label).defines = step.defines.map fun definition => (label definition.1, definition.2) := by
  cases step <;> rfl

variable (injective : Function.Injective label)

include injective

theorem releases_rename (name : String) :
    (step.rename label).releases (label name) = step.releases name := by
  have same : ∀ use : Use, ((use.rename label).name == label name) = (use.name == name) := by
    intro use
    simp only [Use.rename, beq_eq_beq, injective.eq_iff]
  simp only [releases, uses_rename, List.any_map, Function.comp_def, same]
  rfl

theorem check_definition_rename {state renamed : String → Option NameState}
    (same : ∀ name, renamed (label name) = state name) :
    (step.rename label).checkDefinition renamed =
      (step.checkDefinition state).mapError (Violation.rename label) := by
  rw [checkDefinition, checkDefinition, defines_rename]
  cases defined : step.defines with
  | none => rfl
  | some definition =>
      simp only [Option.map_some, same, releases_rename step injective]
      cases state definition.1 with
      | none => rfl
      | some current =>
          cases current with
          | consumed op => rfl
          | live kind =>
              by_cases hidden : (kind.isLinear && !step.releases definition.1) = true
              · simp only [if_pos hidden, Except.mapError, Violation.rename]
              · simp only [if_neg hidden, Except.mapError]

theorem validate_rename {state renamed : String → Option NameState}
    (same : ∀ name, renamed (label name) = state name) :
    (step.rename label).validate renamed =
      (step.validate state).mapError (Violation.rename label) := by
  rw [validate, validate, uses_rename, Use.check_all_rename same,
    check_definition_rename step injective same]
  cases Use.checkAll state step.uses <;> rfl

theorem apply_names_rename (names : Table NameState) :
    (step.rename label).applyNames (names.rename label) = (step.applyNames names).rename label := by
  have released : ∀ (uses : List Use) (names : Table NameState),
      (uses.map (Use.rename label)).foldl
          (fun table use => table.insert use.name (.consumed step.op)) (names.rename label) =
        (uses.foldl (fun table use => table.insert use.name (.consumed step.op)) names).rename
          label := by
    intro uses
    induction uses with
    | nil => exact fun names => rfl
    | cons use rest ih =>
        intro names
        rw [List.map_cons, List.foldl_cons, List.foldl_cons, ← ih, Table.rename_insert injective]
        rfl
  have consuming : ((step.uses.map (Use.rename label)).filter Use.consumes) =
      (step.uses.filter Use.consumes).map (Use.rename label) := List.filter_map
  rw [applyNames, applyNames, uses_rename, defines_rename, op_rename, consuming]
  simp only [released]
  cases step.defines with
  | none => rfl
  | some definition => exact (Table.rename_insert injective ..).symm

end Step

namespace Script

def rename (label : String → String) (script : Script α) : Script α :=
  ⟨script.config, script.steps.map (Step.rename label)⟩

variable {label : String → String} (injective : Function.Injective label)

include injective

theorem check_from_rename (number : Nat) (names : Table NameState) (steps : List (Step α)) :
    checkFrom number (names.rename label) (steps.map (Step.rename label)) =
      (checkFrom number names steps).mapError (StepFailure.rename label) := by
  induction steps generalizing number names with
  | nil => rfl
  | cons step rest ih =>
      have same := fun name => Table.find_rename injective names name
      rw [List.map_cons, checkFrom, checkFrom, step.validate_rename injective same, step.op_rename]
      cases step.validate names.find? with
      | error violation => rfl
      | ok _ =>
          simp only [Except.mapError]
          rw [step.apply_names_rename injective, ih]
          rfl

theorem names_rename (steps : List (Step α)) :
    names (steps.map (Step.rename label)) = (names steps).rename label := by
  have folded : ∀ (steps : List (Step α)) (table : Table NameState),
      (steps.map (Step.rename label)).foldl (fun table step => step.applyNames table)
          (table.rename label) =
        (steps.foldl (fun table step => step.applyNames table) table).rename label := by
    intro steps
    induction steps with
    | nil => exact fun table => rfl
    | cons step rest ih =>
        intro table
        rw [List.map_cons, List.foldl_cons, List.foldl_cons, step.apply_names_rename injective, ih]
  exact folded steps .empty

theorem leaked_rename_perm (script : Script α) :
    (script.rename label).leaked.Perm (script.leaked.map label) := by
  rw [leaked, leaked, rename, names_rename injective]
  exact Table.names_where_rename_perm injective _ _

end Script

end LinearStore
