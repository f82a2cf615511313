import LinearStore.Proofs.Script.Validity
import LinearStore.Script.Basic

set_option autoImplicit false

namespace LinearStore

variable {α : Type}

namespace Step

def definesName (step : Step α) (name : String) : Bool :=
  step.defines.any fun definition => definition.1 == name

theorem defines_name_of_defines {step : Step α} {name : String} {kind : Kind}
    (defined : step.defines = some (name, kind)) : step.definesName name = true := by
  simp [definesName, defined]

theorem defines_of_defines_name {step : Step α} {name : String}
    (defined : step.definesName name = true) : ∃ kind, step.defines = some (name, kind) := by
  obtain ⟨definition, found, same⟩ := (Option.any_eq_true ..).mp defined
  exact ⟨definition.2, found.trans (congrArg (fun key => some (key, definition.2))
    (by simpa using same))⟩

theorem find_foldl_consumed (op : Op) (uses : List Use) (names : Table NameState)
    (name : String) :
    (uses.foldl (fun table use => table.insert use.name (.consumed op)) names).find? name =
      if uses.any (fun use => use.name == name) then some (.consumed op)
      else names.find? name := by
  induction uses generalizing names with
  | nil => rfl
  | cons use rest ih =>
      rw [List.foldl_cons, ih, Table.find_insert, List.any_cons]
      by_cases here : use.name = name
      · simp [here]
      · simp [here, Ne.symm here]

theorem find_apply_names (step : Step α) (names : Table NameState) (name : String) :
    (step.applyNames names).find? name =
      match step.defines with
      | some (defined, kind) =>
          if name = defined then some (.live kind)
          else if step.releases name then some (.consumed step.op)
          else names.find? name
      | none =>
          if step.releases name then some (.consumed step.op) else names.find? name := by
  have released : (step.uses.filter Use.consumes).any (fun use => use.name == name) =
      step.releases name := by
    rw [List.any_filter]
    rfl
  rw [applyNames]
  cases step.defines with
  | none => rw [find_foldl_consumed, released]
  | some definition => rw [Table.find_insert, find_foldl_consumed, released]

theorem find_apply_names_defined {step : Step α} {name : String} {kind : Kind}
    (defined : step.defines = some (name, kind)) (names : Table NameState) :
    (step.applyNames names).find? name = some (.live kind) := by
  rw [find_apply_names, defined]
  exact if_pos rfl

theorem ne_of_not_defined {step : Step α} {name : String} {definition : String × Kind}
    (other : step.definesName name = false) (defined : step.defines = some definition) :
    name ≠ definition.1 := by
  rintro rfl
  rw [defines_name_of_defines defined] at other
  cases other

theorem find_apply_names_of_not_defined {step : Step α} {name : String}
    (other : step.definesName name = false) (names : Table NameState) :
    (step.applyNames names).find? name =
      if step.releases name then some (.consumed step.op) else names.find? name := by
  rw [find_apply_names]
  cases defined : step.defines with
  | none => rfl
  | some definition => exact if_neg (ne_of_not_defined other defined)

theorem use_of_releases {step : Step α} {name : String} (released : step.releases name = true) :
    ∃ use ∈ step.uses, use.name = name := by
  obtain ⟨use, used, matching⟩ := List.any_eq_true.mp released
  exact ⟨use, used, by simpa using (Bool.and_eq_true_iff.mp matching).2⟩

theorem not_releases_of_dead {step : Step α} {state : String → Option NameState} {name : String}
    (valid : step.validate state = .ok ()) (dead : ∀ kind, state name ≠ some (.live kind)) :
    step.releases name ≠ true := by
  intro released
  obtain ⟨use, used, same⟩ := use_of_releases released
  exact dead use.kind (same ▸ live_of_validate valid used)

end Step

namespace Script

def namesAfter (names : Table NameState) (steps : List (Step α)) : Table NameState :=
  steps.foldl (fun table step => step.applyNames table) names

def Disciplined (names : Table NameState) : List (Step α) → Prop
  | [] => True
  | step :: rest => step.validate names.find? = .ok () ∧ Disciplined (step.applyNames names) rest

theorem check_from_valid {names : Table NameState} {step : Step α}
    (valid : step.validate names.find? = .ok ()) (number : Nat) (rest : List (Step α)) :
    checkFrom number names (step :: rest) = checkFrom (number + 1) (step.applyNames names) rest := by
  rw [checkFrom, valid]

theorem check_from_invalid {names : Table NameState} {step : Step α} {violation : Violation}
    (invalid : step.validate names.find? = .error violation) (number : Nat)
    (rest : List (Step α)) :
    checkFrom number names (step :: rest) =
      .error ⟨number, step.op, .contractViolation violation⟩ := by
  rw [checkFrom, invalid]

theorem check_from_eq_ok_iff (number : Nat) (names : Table NameState) (steps : List (Step α)) :
    checkFrom number names steps = .ok () ↔ Disciplined names steps := by
  induction steps generalizing number names with
  | nil => exact iff_of_true rfl trivial
  | cons step rest ih =>
      cases valid : step.validate names.find? with
      | error violation => simp [check_from_invalid valid, Disciplined, valid]
      | ok _ => simp [check_from_valid valid, Disciplined, valid, ih]

theorem disciplined_append (names : Table NameState) (first second : List (Step α)) :
    Disciplined names (first ++ second) ↔
      Disciplined names first ∧ Disciplined (namesAfter names first) second := by
  induction first generalizing names with
  | nil => simp [Disciplined, namesAfter]
  | cons step rest ih => simp only [List.cons_append, Disciplined, ih, and_assoc]; rfl

theorem names_after_append (names : Table NameState) (first second : List (Step α)) :
    namesAfter names (first ++ second) = namesAfter (namesAfter names first) second :=
  List.foldl_append

end Script

end LinearStore
