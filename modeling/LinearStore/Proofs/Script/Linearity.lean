import LinearStore.Proofs.Script.Touch

set_option autoImplicit false

namespace LinearStore

variable {α : Type}

namespace Script

structure InOrder (steps : List (Step α)) (number : Nat) (step : Step α) : Prop where
  used : ∀ use ∈ step.uses, ∃ place toucher,
    LatestToucher steps use.name number place toucher ∧
      toucher.defines = some (use.name, use.kind)
  defined : ∀ name kind, step.defines = some (name, kind) →
    Untouched steps name number ∨
    (∃ place toucher, LatestToucher steps name number place toucher ∧
      toucher.definesName name = false) ∨
    (∃ place toucher, LatestToucher steps name number place toucher ∧
      toucher.defines = some (name, .sequence)) ∨
    step.releases name = true

theorem eq_sequence_of_not_linear {kind : Kind} (free : kind.isLinear = false) :
    kind = .sequence := by
  cases kind with
  | sequence => rfl
  | seq | lseq | maybe => cases free

theorem definition_allowed_iff {steps : List (Step α)} {number : Nat} {step : Step α}
    {name : String} :
    (∀ old, (namesBefore steps number).find? name = some (.live old) → old.isLinear = true →
        step.releases name = true) ↔
      Untouched steps name number ∨
      (∃ place toucher, LatestToucher steps name number place toucher ∧
        toucher.definesName name = false) ∨
      (∃ place toucher, LatestToucher steps name number place toucher ∧
        toucher.defines = some (name, .sequence)) ∨
      step.releases name = true := by
  constructor
  · intro allowed
    cases found : (namesBefore steps number).find? name with
    | none => exact Or.inl (find_names_before_eq_none_iff.mp found)
    | some state =>
        cases state with
        | consumed op =>
            obtain ⟨place, toucher, latest, consumes, _⟩ := consumed_before_iff.mp found
            exact Or.inr (Or.inl ⟨place, toucher, latest, consumes⟩)
        | live old =>
            cases linear : old.isLinear with
            | true => exact Or.inr (Or.inr (Or.inr (allowed old found linear)))
            | false =>
                obtain ⟨place, toucher, latest, defines⟩ := live_before_iff.mp found
                rw [eq_sequence_of_not_linear linear] at defines
                exact Or.inr (Or.inr (Or.inl ⟨place, toucher, latest, defines⟩))
  · intro allowed old found linear
    obtain ⟨place, toucher, latest, defines⟩ := live_before_iff.mp found
    rcases allowed with untouched | ⟨_, _, latest', consumes⟩ | ⟨_, _, latest', sequence⟩ | released
    · exact absurd latest untouched.not_latest_toucher
    · obtain ⟨_, rfl⟩ := latest.unique latest'
      rw [Step.defines_name_of_defines defines] at consumes
      cases consumes
    · obtain ⟨_, rfl⟩ := latest.unique latest'
      cases defines.symm.trans sequence
      cases linear
    · exact released

theorem validate_iff_in_order (steps : List (Step α)) (number : Nat) (step : Step α) :
    step.validate (namesBefore steps number).find? = .ok () ↔ InOrder steps number step := by
  rw [Step.validate_eq_ok_iff]
  constructor
  · rintro ⟨live, hidesNothing⟩
    refine ⟨fun use used => live_before_iff.mp (live use used), fun name kind defined => ?_⟩
    exact definition_allowed_iff.mp fun old => hidesNothing name kind old defined
  · rintro ⟨used, defined⟩
    refine ⟨fun use member => live_before_iff.mpr (used use member), ?_⟩
    intro name kind old defines
    exact definition_allowed_iff.mpr (defined name kind defines) old

theorem check_from_ok {steps : List (Step α)} {number : Nat} {names : Table NameState}
    (checked : checkFrom number names steps = .ok ()) {place : Nat} {step : Step α}
    (found : steps[place]? = some step) :
    step.validate (namesAfter names (steps.take place)).find? = .ok () := by
  induction steps generalizing number names place with
  | nil => cases found
  | cons first rest ih =>
      obtain ⟨valid, later⟩ := (check_from_eq_ok_iff ..).mp checked
      cases place with
      | zero =>
          cases found
          exact valid
      | succ place => exact ih ((check_from_eq_ok_iff (number + 1) ..).mpr later) found

theorem check_from_error {steps : List (Step α)} {number : Nat} {names : Table NameState}
    {failure : StepFailure} (failed : checkFrom number names steps = .error failure) :
    ∃ place step violation, steps[place]? = some step ∧
      failure = ⟨number + place, step.op, .contractViolation violation⟩ ∧
      step.validate (namesAfter names (steps.take place)).find? = .error violation ∧
      checkFrom number names (steps.take place) = .ok () := by
  induction steps generalizing number names with
  | nil => cases failed
  | cons first rest ih =>
      cases valid : first.validate names.find? with
      | error violation =>
          rw [check_from_invalid valid] at failed
          cases failed
          exact ⟨0, first, violation, rfl, rfl, valid, rfl⟩
      | ok _ =>
          rw [check_from_valid valid] at failed
          obtain ⟨place, step, violation, found, rfl, invalid, before⟩ := ih failed
          refine ⟨place + 1, step, violation, found, ?_, invalid, ?_⟩
          · rw [Nat.add_right_comm, Nat.add_assoc]
          · rw [List.take_succ_cons, check_from_valid valid]
            exact before

end Script

open Script in
theorem check_accepts_exactly_linear_scripts (script : Script α) :
    (script.check = .ok () ↔
      ∀ number step, script.steps[number]? = some step → InOrder script.steps number step) ∧
    ∀ failure, script.check = .error failure →
      (∃ step, script.steps[failure.step]? = some step ∧ failure.op = step.op ∧
        ¬ InOrder script.steps failure.step step) ∧
      (∀ number step, number < failure.step → script.steps[number]? = some step →
        InOrder script.steps number step) ∧
      ∀ name op, failure.fault = .contractViolation (.useAfterConsume name op) →
        ∃ place toucher, LatestToucher script.steps name failure.step place toucher ∧
          toucher.definesName name = false ∧ toucher.op = op := by
  have refused : ∀ failure, script.check = .error failure →
      ∃ step violation, script.steps[failure.step]? = some step ∧ failure.op = step.op ∧
        failure.fault = .contractViolation violation ∧
        step.validate (namesBefore script.steps failure.step).find? = .error violation ∧
        checkFrom 0 .empty (script.steps.take failure.step) = .ok () := by
    intro failure failed
    obtain ⟨place, step, violation, found, rfl, invalid, before⟩ := check_from_error failed
    rw [Nat.zero_add]
    exact ⟨step, violation, found, rfl, rfl, invalid, before⟩
  refine ⟨⟨fun checked number step found => ?_, fun ordered => ?_⟩, fun failure failed => ?_⟩
  · exact (validate_iff_in_order ..).mp (check_from_ok checked found)
  · cases checked : script.check with
    | ok _ => rfl
    | error failure =>
        obtain ⟨step, violation, found, _, _, invalid, _⟩ := refused failure checked
        have valid := (validate_iff_in_order ..).mpr (ordered failure.step step found)
        rw [invalid] at valid
        cases valid
  · obtain ⟨step, violation, found, sameOp, fault, invalid, before⟩ := refused failure failed
    refine ⟨⟨step, found, sameOp, fun ordered => ?_⟩, fun number other less there => ?_, ?_⟩
    · have valid := (validate_iff_in_order ..).mpr ordered
      rw [invalid] at valid
      cases valid
    · have kept : (script.steps.take failure.step)[number]? = some other := by
        rw [List.getElem?_take_of_lt less, there]
      have valid := check_from_ok before kept
      rw [List.take_take, Nat.min_eq_left (Nat.le_of_lt less)] at valid
      exact (validate_iff_in_order ..).mp valid
    · intro name consumer named
      rw [fault] at named
      cases named
      exact consumed_before_iff.mp (Step.consumed_of_validate_error invalid)

-- The swap takes its source from a name and gives it a new meaning at once, so the name is in order
-- until the slot under it is discarded.
theorem check_accepts_exactly_linear_scripts_on_swap :
    let config : Config Nat := ⟨0, {}, false⟩
    let swap : Step Nat := .swapRaw "l" 0 "m" "m"
    let linear : Script Nat := ⟨config, [.allocRaw "l" 1, .give "m" 5, swap, .discard "m"]⟩
    let reused : Script Nat := ⟨config, linear.steps ++ [.peek "m"]⟩
    let failure : StepFailure := ⟨4, .peek, .contractViolation (.useAfterConsume "m" .discard)⟩
    (linear.check = .ok () ∧ Script.InOrder linear.steps 2 swap) ∧
      (reused.check = .error failure ∧ Script.InOrder reused.steps 2 swap ∧
        ∃ place toucher, Script.LatestToucher reused.steps "m" 4 place toucher ∧
          toucher.definesName "m" = false ∧ toucher.op = .discard) := by
  intro config swap linear reused failure
  have accepted : linear.check = .ok () := rfl
  have refused : reused.check = .error failure := rfl
  refine ⟨⟨accepted, ?_⟩, refused, ?_, ?_⟩
  · exact (check_accepts_exactly_linear_scripts linear).1.mp accepted 2 swap rfl
  · exact ((check_accepts_exactly_linear_scripts reused).2 failure refused).2.1 2 swap
      (by decide) rfl
  · exact ((check_accepts_exactly_linear_scripts reused).2 failure refused).2.2 "m" .discard rfl

end LinearStore
