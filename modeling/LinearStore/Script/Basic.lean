import LinearStore.Allocation
import LinearStore.Fault
import LinearStore.Script.Step
import LinearStore.Table

set_option autoImplicit false

namespace LinearStore

inductive NameState where
  | live (kind : Kind)
  | consumed (op : Op)
deriving DecidableEq, Repr

namespace NameState

def isLiveLinear : NameState → Bool
  | live kind => kind.isLinear
  | consumed _ => false

end NameState

namespace Use

def check (use : Use) (state : Option NameState) : Except Violation Unit :=
  match state with
  | none => .error (.unknownBinding use.name)
  | some (.consumed op) => .error (.useAfterConsume use.name op)
  | some (.live kind) =>
      if kind = use.kind then .ok () else .error (.kindMismatch use.name use.kind kind)

def checkAll (state : String → Option NameState) : List Use → Except Violation Unit
  | [] => .ok ()
  | use :: rest =>
      match use.check (state use.name) with
      | .error violation => .error violation
      | .ok () => checkAll state rest

end Use

namespace Step

variable {α : Type}

def releases (step : Step α) (name : String) : Bool :=
  step.uses.any fun use => use.consumes && use.name == name

-- A new binding must not hide a linear value that is still live.
def checkDefinition (step : Step α) (state : String → Option NameState) :
    Except Violation Unit :=
  match step.defines with
  | none => .ok ()
  | some (name, _) =>
      match state name with
      | some (.live kind) =>
          if kind.isLinear && !step.releases name then .error (.shadowed name kind) else .ok ()
      | _ => .ok ()

def validate (step : Step α) (state : String → Option NameState) : Except Violation Unit :=
  match Use.checkAll state step.uses with
  | .error violation => .error violation
  | .ok () => step.checkDefinition state

def applyNames (step : Step α) (names : Table NameState) : Table NameState :=
  let released := (step.uses.filter Use.consumes).foldl
    (fun table use => table.insert use.name (.consumed step.op)) names
  match step.defines with
  | none => released
  | some (name, kind) => released.insert name (.live kind)

end Step

structure Config (α : Type) where
  defaultValue : α
  limits : Limits := {}
  -- Whether releasing an array of slots refuses while a slot is full.
  strictFree : Bool := false
deriving DecidableEq, Repr

def Config.map {α β : Type} (f : α → β) (config : Config α) : Config β :=
  ⟨f config.defaultValue, config.limits, config.strictFree⟩

structure StepFailure where
  step : Nat
  op : Op
  fault : Fault
deriving DecidableEq, Repr

namespace StepFailure

def message (failure : StepFailure) : String :=
  s!"step {failure.step} (" ++ failure.op.text ++ "): " ++ failure.fault.message

end StepFailure

structure Script (α : Type) where
  config : Config α
  steps : List (Step α)
deriving DecidableEq, Repr

namespace Script

variable {α β : Type}

def checkFrom (number : Nat) (names : Table NameState) :
    List (Step α) → Except StepFailure Unit
  | [] => .ok ()
  | step :: rest =>
      match step.validate names.find? with
      | .error violation => .error ⟨number, step.op, .contractViolation violation⟩
      | .ok () => checkFrom (number + 1) (step.applyNames names) rest

-- Finds the first misuse of a name. What depends on values, an index or the state of a slot, only
-- shows when the script runs.
def check (script : Script α) : Except StepFailure Unit := checkFrom 0 .empty script.steps

def names (steps : List (Step α)) : Table NameState :=
  steps.foldl (fun table step => step.applyNames table) .empty

def leaked (script : Script α) : List String :=
  (names script.steps).namesWhere NameState.isLiveLinear

def map (f : α → β) (script : Script α) : Script β :=
  ⟨script.config.map f, script.steps.map (Step.map f)⟩

end Script

end LinearStore
