import LinearStore.Proofs.Script.Discipline

set_option autoImplicit false

namespace LinearStore

variable {α : Type}

namespace Op

def definesLinear : Op → Bool
  | alloc | allocInit | give | empty | allocRaw | swapRaw => true
  | _ => false

def consumes : Op → Bool
  | free | unleash | unwrap | discard | swapRaw | freeRaw | freeLseq => true
  | _ => false

end Op

namespace Script

-- The steps in which a name keeps the meaning it had before them, with the step that takes it over.
def tenure (name : String) : List (Step α) → List (Step α)
  | [] => []
  | step :: rest => if step.definesName name then [step] else step :: tenure name rest

theorem tenure_cons_defines {name : String} {step : Step α}
    (redefined : step.definesName name = true) (rest : List (Step α)) :
    tenure name (step :: rest) = [step] :=
  if_pos redefined

theorem tenure_cons_keeps {name : String} {step : Step α}
    (kept : step.definesName name = false) (rest : List (Step α)) :
    tenure name (step :: rest) = step :: tenure name rest :=
  if_neg (kept ▸ Bool.false_ne_true)

theorem tenure_append_cons {name : String} {between : List (Step α)} {closing : Step α}
    (kept : ∀ step ∈ between, step.definesName name = false)
    (redefined : closing.definesName name = true) (rest : List (Step α)) :
    tenure name (between ++ closing :: rest) = between ++ [closing] := by
  induction between with
  | nil => exact tenure_cons_defines redefined rest
  | cons step between ih =>
      have keptHere := kept step List.mem_cons_self
      have keptLater := fun later member => kept later (List.mem_cons_of_mem step member)
      rw [List.cons_append, tenure_cons_keeps keptHere, ih keptLater]
      rfl

def releaseCount (name : String) (steps : List (Step α)) : Nat :=
  steps.countP fun step => step.releases name

theorem release_count_cons_releases {name : String} {step : Step α}
    (released : step.releases name = true) (rest : List (Step α)) :
    releaseCount name (step :: rest) = releaseCount name rest + 1 :=
  List.countP_cons_of_pos (p := fun step : Step α => step.releases name) released

theorem release_count_cons_keeps {name : String} {step : Step α}
    (keeps : step.releases name ≠ true) (rest : List (Step α)) :
    releaseCount name (step :: rest) = releaseCount name rest :=
  List.countP_cons_of_neg (p := fun step : Step α => step.releases name) keeps

theorem no_releases_in_tenure {name : String} {steps : List (Step α)} {names : Table NameState}
    (disciplined : Disciplined names steps)
    (dead : ∀ kind, names.find? name ≠ some (.live kind)) :
    releaseCount name (tenure name steps) = 0 := by
  induction steps generalizing names with
  | nil => rfl
  | cons step rest ih =>
      obtain ⟨valid, later⟩ := disciplined
      have keeps : step.releases name ≠ true := Step.not_releases_of_dead valid dead
      cases redefined : step.definesName name with
      | true =>
          rw [tenure_cons_defines redefined, release_count_cons_keeps keeps]
          rfl
      | false =>
          have same := Step.find_apply_names_of_not_defined redefined names
          rw [if_neg keeps] at same
          rw [tenure_cons_keeps redefined, release_count_cons_keeps keeps]
          exact ih later (same ▸ dead)

theorem one_release_in_tenure {name : String} {kind : Kind} {steps : List (Step α)}
    {names : Table NameState} (disciplined : Disciplined names steps)
    (live : names.find? name = some (.live kind)) (linear : kind.isLinear = true) :
    releaseCount name (tenure name steps) = 1 ∨
      (∀ step ∈ steps, step.definesName name = false) ∧
        (namesAfter names steps).find? name = some (.live kind) := by
  induction steps generalizing names with
  | nil => exact Or.inr ⟨fun _ member => absurd member List.not_mem_nil, live⟩
  | cons step rest ih =>
      obtain ⟨valid, later⟩ := disciplined
      cases redefined : step.definesName name with
      | true =>
          obtain ⟨next, defined⟩ := Step.defines_of_defines_name redefined
          have released := Step.releases_of_validate valid defined live linear
          rw [tenure_cons_defines redefined, release_count_cons_releases released]
          exact Or.inl rfl
      | false =>
          have found := Step.find_apply_names_of_not_defined redefined names
          rw [tenure_cons_keeps redefined]
          by_cases released : step.releases name = true
          · rw [if_pos released] at found
            have spent := no_releases_in_tenure later fun kind live => by
              rw [found] at live
              cases live
            rw [release_count_cons_releases released, spent]
            exact Or.inl rfl
          · rw [if_neg released] at found
            rw [release_count_cons_keeps released]
            rcases ih later (found.trans live) with once | ⟨kept, stillLive⟩
            · exact Or.inl once
            · exact Or.inr ⟨List.forall_mem_cons.mpr ⟨redefined, kept⟩, stillLive⟩

theorem one_release_after {before rest : List (Step α)} {opening : Step α} {name : String}
    {kind : Kind} {names : Table NameState}
    (disciplined : Disciplined names (before ++ opening :: rest))
    (defined : opening.defines = some (name, kind)) (linear : kind.isLinear = true) :
    releaseCount name (tenure name rest) = 1 ∨
      (∀ step ∈ rest, step.definesName name = false) ∧
        (namesAfter names (before ++ opening :: rest)).find? name = some (.live kind) := by
  obtain ⟨_, _, later⟩ := (disciplined_append names before (opening :: rest)).mp disciplined
  rw [names_after_append]
  exact one_release_in_tenure later (Step.find_apply_names_defined defined _) linear

end Script

end LinearStore
