import LinearStore.Script.Basic

set_option autoImplicit false

namespace LinearStore

variable {α : Type} {state : String → Option NameState}

namespace Use

theorem check_eq_ok_iff (use : Use) (found : Option NameState) :
    use.check found = .ok () ↔ found = some (.live use.kind) := by
  cases found with
  | none => simp [check]
  | some current =>
      cases current with
      | consumed op => simp [check]
      | live kind =>
          by_cases same : kind = use.kind <;> simp [check, same]

theorem check_all_eq_ok_iff (uses : List Use) :
    checkAll state uses = .ok () ↔ ∀ use ∈ uses, state use.name = some (.live use.kind) := by
  induction uses with
  | nil => simp [checkAll]
  | cons use rest step =>
      rw [List.forall_mem_cons, ← step, ← check_eq_ok_iff, checkAll]
      cases use.check (state use.name) <;> simp

theorem check_error_is_name_level {use : Use} {found : Option NameState} {violation : Violation}
    (failed : use.check found = .error violation) : violation.isNameLevel = true := by
  unfold check at failed
  split at failed
  · cases failed
    rfl
  · cases failed
    rfl
  · split at failed <;> cases failed
    rfl

theorem check_of_check_all_error {uses : List Use} {violation : Violation}
    (failed : checkAll state uses = .error violation) :
    ∃ use ∈ uses, use.check (state use.name) = .error violation := by
  induction uses with
  | nil => cases failed
  | cons use rest step =>
      rw [checkAll] at failed
      cases checked : use.check (state use.name) with
      | error first =>
          rw [checked] at failed
          cases failed
          exact ⟨use, List.mem_cons_self, checked⟩
      | ok _ =>
          rw [checked] at failed
          obtain ⟨other, member, refused⟩ := step failed
          exact ⟨other, List.mem_cons_of_mem use member, refused⟩

theorem check_all_error_is_name_level {uses : List Use} {violation : Violation}
    (failed : checkAll state uses = .error violation) : violation.isNameLevel = true := by
  obtain ⟨use, _, refused⟩ := check_of_check_all_error failed
  exact check_error_is_name_level refused

theorem consumed_of_check_error {use : Use} {found : Option NameState} {name : String} {op : Op}
    (failed : use.check found = .error (.useAfterConsume name op)) :
    use.name = name ∧ found = some (.consumed op) := by
  unfold check at failed
  split at failed
  · cases failed
  · cases failed
    exact ⟨rfl, rfl⟩
  · split at failed <;> cases failed

theorem consumed_of_check_all_error {uses : List Use} {name : String} {op : Op}
    (failed : checkAll state uses = .error (.useAfterConsume name op)) :
    state name = some (.consumed op) := by
  obtain ⟨use, _, refused⟩ := check_of_check_all_error failed
  obtain ⟨rfl, found⟩ := consumed_of_check_error refused
  exact found

end Use

namespace Step

theorem check_definition_eq_ok_iff (step : Step α) :
    step.checkDefinition state = .ok () ↔
      ∀ name kind old, step.defines = some (name, kind) → state name = some (.live old) →
        old.isLinear = true → step.releases name = true := by
  rw [checkDefinition]
  cases defined : step.defines with
  | none => simp
  | some definition =>
      obtain ⟨name, kind⟩ := definition
      simp only [Option.some.injEq, Prod.mk.injEq, and_imp]
      constructor
      · rintro checked _ _ old rfl rfl found linear
        cases kept : step.releases name with
        | true => rfl
        | false => simp [found, linear, kept] at checked
      · intro hidesNothing
        cases found : state name with
        | none => rfl
        | some current =>
            cases current with
            | consumed op => rfl
            | live old =>
                cases linear : old.isLinear with
                | false => simp [linear]
                | true => simp [linear, hidesNothing name kind old rfl rfl found linear]

theorem check_definition_error_is_name_level {step : Step α} {violation : Violation}
    (failed : step.checkDefinition state = .error violation) : violation.isNameLevel = true := by
  unfold checkDefinition at failed
  split at failed
  · cases failed
  · split at failed
    · split at failed <;> cases failed
      rfl
    · cases failed

theorem validate_error_is_name_level {step : Step α} {violation : Violation}
    (failed : step.validate state = .error violation) : violation.isNameLevel = true := by
  unfold validate at failed
  split at failed
  · rename_i first checked
    cases failed
    exact Use.check_all_error_is_name_level checked
  · exact check_definition_error_is_name_level failed

theorem consumed_of_validate_error {step : Step α} {name : String} {op : Op}
    (failed : step.validate state = .error (.useAfterConsume name op)) :
    state name = some (.consumed op) := by
  unfold validate at failed
  split at failed
  · rename_i first checked
    cases failed
    exact Use.consumed_of_check_all_error checked
  · unfold checkDefinition at failed
    split at failed
    · cases failed
    · split at failed
      · split at failed <;> cases failed
      · cases failed

theorem validate_eq_ok_iff (step : Step α) :
    step.validate state = .ok () ↔
      (∀ use ∈ step.uses, state use.name = some (.live use.kind)) ∧
        ∀ name kind old, step.defines = some (name, kind) → state name = some (.live old) →
          old.isLinear = true → step.releases name = true := by
  rw [← Use.check_all_eq_ok_iff, ← check_definition_eq_ok_iff, validate]
  cases Use.checkAll state step.uses <;> simp

theorem live_of_validate {step : Step α} (valid : step.validate state = .ok ()) {use : Use}
    (used : use ∈ step.uses) : state use.name = some (.live use.kind) :=
  ((validate_eq_ok_iff step).mp valid).1 use used

theorem releases_of_validate {step : Step α} (valid : step.validate state = .ok ()) {name : String}
    {kind old : Kind} (defined : step.defines = some (name, kind))
    (found : state name = some (.live old)) (linear : old.isLinear = true) :
    step.releases name = true :=
  ((validate_eq_ok_iff step).mp valid).2 name kind old defined found linear

theorem hides_nothing {step : Step α} (valid : step.validate state = .ok ()) {name : String}
    {kind : Kind} (defined : step.defines = some (name, kind)) (kept : step.releases name = false)
    (old : Kind) (found : state name = some (.live old)) : old.isLinear = false := by
  cases linear : old.isLinear with
  | false => rfl
  | true =>
      have released := releases_of_validate valid defined found linear
      rw [kept] at released
      cases released

theorem hides_nothing_after_consume {names : Table NameState} {step : Step α}
    (valid : step.validate names.find? = .ok ()) {source into : String} {kind : Kind}
    (defined : step.defines = some (into, kind))
    (released : step.releases into = true → into = source) (op : Op) (old : Kind)
    (found : (names.insert source (.consumed op)).find? into = some (.live old)) :
    old.isLinear = false := by
  rw [Table.find_insert] at found
  by_cases reused : into = source
  · rw [if_pos reused] at found
    cases found
  · rw [if_neg reused] at found
    cases kept : step.releases into with
    | true => exact absurd (released kept) reused
    | false => exact hides_nothing valid defined kept old found

theorem releases_unleash {name into other : String}
    (released : (unleash name into : Step α).releases other = true) : other = name := by
  have same : name = other := by simpa [releases, uses, Use.consuming] using released
  exact same.symm

theorem releases_swap_raw {name source into other : String} {index : UInt64}
    (released : (swapRaw name index source into : Step α).releases other = true) :
    other = source := by
  have same : source = other := by simpa [releases, uses, Use.reads, Use.consuming] using released
  exact same.symm

end Step

end LinearStore
