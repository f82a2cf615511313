import LinearStore.Allocation
import LinearStore.Proofs.Session.Frame
import LinearStore.Proofs.Session.History

set_option autoImplicit false

namespace LinearStore

variable {α : Type}

def Op.onlyReads : Op → Bool
  | .get | .length | .select | .peek | .lengthRaw | .shareRaw => true
  | _ => false

-- Containers of one kind and one length that hold the same everywhere but at an index.
def Binding.SameBut (index : Nat) : Binding α → Binding α → Prop
  | .seq old, .seq new =>
      new.length = old.length ∧ ∀ place ≠ index, new.elements[place]? = old.elements[place]?
  | .lseq old, .lseq new =>
      new.length = old.length ∧ ∀ place ≠ index, new.slots[place]? = old.slots[place]?
  | _, _ => False

theorem Binding.same_but_of_set (array : LinearArray α) (index : Nat) (value : α) :
    SameBut index (.seq array) (.seq ⟨array.elements.set index value⟩) :=
  ⟨List.length_set, fun _ elsewhere => List.getElem?_set_ne (Ne.symm elsewhere)⟩

theorem Binding.same_but_of_swap (array : SlotArray α) (index : Nat) (slot : Slot α) :
    SameBut index (.lseq array) (.lseq ⟨array.slots.set index slot⟩) :=
  ⟨List.length_set, fun _ elsewhere => List.getElem?_set_ne (Ne.symm elsewhere)⟩

namespace Step

theorem linear_of_consuming {step : Step α} {use : Use} (used : use ∈ step.uses)
    (consumes : use.consumes = true) : use.kind.isLinear = true := by
  cases step with
  | free | unleash | unwrap | discard | freeRaw | freeLseq =>
      cases List.mem_singleton.mp used
      rfl
  | swapRaw =>
      rcases List.mem_cons.mp used with rfl | second
      · cases consumes
      · cases List.mem_singleton.mp second
        rfl
  | get | set | length | select | peek | lengthRaw | shareRaw | take | put =>
      cases List.mem_singleton.mp used
      cases consumes
  | alloc | allocInit | give | empty | allocRaw => cases used

theorem not_releases_of_sequence {step : Step α} {state : String → Option NameState} {name : String}
    (valid : step.validate state = .ok ()) (live : state name = some (.live .sequence)) :
    step.releases name = false := by
  cases released : step.releases name with
  | false => rfl
  | true =>
      obtain ⟨use, used, matching⟩ := List.any_eq_true.mp released
      obtain ⟨consumes, same⟩ := Bool.and_eq_true_iff.mp matching
      have linear := linear_of_consuming used consumes
      have found := live_of_validate valid used
      rw [beq_iff_eq.mp same, live] at found
      cases NameState.live.inj (Option.some.inj found) ▸ linear

theorem untouched_of_stores {step : Step α} {state : String → Option NameState} {name : String}
    (valid : step.validate state = .ok ()) (stored : step.stores = some name) :
    step.touches name = false := by
  cases step with
  | set =>
      cases stored
      exact untouched_of_linear valid (live_of_validate valid List.mem_cons_self) rfl rfl
  | take | put =>
      cases stored
      exact untouched_of_linear valid (live_of_validate valid List.mem_cons_self) rfl rfl
  | swapRaw =>
      cases stored
      have live := live_of_validate valid List.mem_cons_self
      have brought := live_of_validate valid (List.mem_cons_of_mem _ List.mem_cons_self)
      refine untouched_of_linear valid live rfl ?_
      cases released : Step.releases _ _ with
      | false => rfl
      | true =>
          rw [← releases_swap_raw released] at brought
          cases live.symm.trans brought
  | _ => cases stored

end Step

namespace Session

variable [Allocator] {session next : Session α} {step : Step α} {answer : Option (Answer α)}
  {name : String}

theorem effect_of_only_reads (effect : session.Effect step answer next)
    (reading : step.op.onlyReads = true) : next = session := by
  cases effect with
  | get | length | select | peek | lengthRaw | shareRaw => rfl
  | _ => cases reading

theorem effect_same_but (valid : step.validate session.state = .ok ())
    (effect : session.Effect step answer next) (stored : step.stores = some name) :
    ∃ index old new, step.addresses = some (name, index) ∧ session.Holds name old ∧
      next.Holds name new ∧ old.SameBut index.toNat new := by
  have untouched := Step.untouched_of_stores valid stored
  rcases effect_stored effect untouched stored with
    ⟨index, value, array, rfl, found, written⟩ | ⟨index, slot, array, addressed, found, written⟩
  · exact ⟨index, _, _, rfl, found, written, Binding.same_but_of_set array index.toNat value⟩
  · exact ⟨index, _, _, addressed, found, written,
      Binding.same_but_of_swap array index.toNat slot⟩

theorem effect_keeps_sequence (valid : step.validate session.state = .ok ())
    (effect : session.Effect step answer next) {contents : Sequence α}
    (held : session.Holds name (.sequence contents)) (kept : step.definesName name = false) :
    next.Holds name (.sequence contents) := by
  have unreleased := Step.not_releases_of_sequence valid (state_of_holds held)
  have untouched : step.touches name = false := Bool.or_eq_false_iff.mpr ⟨unreleased, kept⟩
  have unstored : step.stores ≠ some name := by
    intro stored
    obtain ⟨_, old, new, _, found, _, same⟩ := effect_same_but valid effect stored
    cases found.symm.trans held
    exact same
  exact (effect_find_of_untouched effect untouched unstored).trans held

theorem run_all_keeps_sequence {contents : Sequence α}
    (held : session.Holds name (.sequence contents)) (steps : List (Step α))
    (kept : ∀ step ∈ session.succeeding steps, step.definesName name = false) :
    (session.runAll steps).Holds name (.sequence contents) := by
  have stays := deeds_keep
    (fun log session => (∀ deed ∈ log, deed.step.definesName name = false) →
      session.Holds name (.sequence contents))
    (fun stays valid effect undefined =>
      effect_keeps_sequence valid effect
        (stays fun deed inside => undefined deed (List.mem_append_left _ inside))
        (undefined _ (List.mem_append_right _ List.mem_cons_self)))
    [] (fun _ => held) steps
  exact stays fun deed done => kept deed.step (List.mem_map_of_mem done)

theorem run_from_replicate {step : Step α} (succeeded : (session.execute step).outcome = .ok answer)
    (unchanged : (session.execute step).session = session) (count number : Nat) :
    (session.runFrom number (List.replicate count step)).report.outcomes.map Outcome.answer =
        List.replicate count answer ∧
      (session.runFrom number (List.replicate count step)).session = session := by
  induction count generalizing number with
  | zero => exact ⟨rfl, rfl⟩
  | succ count ih =>
      rw [List.replicate_succ, run_from_ok succeeded, unchanged]
      obtain ⟨answers, ended⟩ := ih (number + 1)
      exact ⟨List.cons_eq_cons.mpr ⟨rfl, answers⟩, ended⟩

end Session

theorem successful_steps_change_what_they_declare [Allocator] (session : Session α) :
    (∀ step answer, (session.execute step).outcome = .ok answer →
      let next := session.after step
      next.config = session.config ∧
      (∀ name, step.releases name = false → step.definesName name = false →
        step.stores ≠ some name → next.bindings.find? name = session.bindings.find? name) ∧
      (∀ name, step.stores = some name → ∃ index old new,
        step.addresses = some (name, index) ∧ session.Holds name old ∧ next.Holds name new ∧
          old.SameBut index.toNat new) ∧
      (step.op.onlyReads = true → next = session ∧
        ∀ count, let again := session.run (List.replicate count step)
          again.report.outcomes.map Outcome.answer = List.replicate count answer ∧
            again.session = session)) ∧
    ∀ name contents, session.Holds name (.sequence contents) →
      ∀ steps, (∀ step ∈ session.succeeding steps, step.definesName name = false) →
        (session.runAll steps).Holds name (.sequence contents) := by
  refine ⟨fun step answer succeeded => ?_, fun name contents held steps kept =>
    Session.run_all_keeps_sequence held steps kept⟩
  intro next
  obtain ⟨valid, effect⟩ := Session.execute_ok succeeded
  refine ⟨Session.effect_config effect, ?_, fun name stored =>
    Session.effect_same_but valid effect stored, fun reading => ?_⟩
  · intro name unreleased undefined unstored
    have untouched : step.touches name = false := Bool.or_eq_false_iff.mpr ⟨unreleased, undefined⟩
    exact Session.effect_find_of_untouched effect untouched unstored
  · have unchanged := Session.effect_of_only_reads effect reading
    exact ⟨unchanged, fun count => Session.run_from_replicate succeeded unchanged count 0⟩

-- The swap hands back under the very name that it consumes, the array that is unleashed takes the name
-- of a sequence that is already there, and another sequence outlasts all steps.
theorem successful_steps_change_what_they_declare_under_reuse :
    let session : Session Nat := (Session.new ⟨0, {}, false⟩).runAll
      [.allocRaw "l" 2, .put "l" 1 4, .give "m" 5, .alloc "s" 1, .unleash "s" "kept",
        .alloc "s" 2, .unleash "s" "old", .alloc "s" 3]
    let swap : Step Nat := .swapRaw "l" 0 "m" "m"
    let share : Step Nat := .shareRaw "l" 1
    let steps : List (Step Nat) :=
      [.unleash "s" "old", .free "kept", .unwrap "m", .select "kept" 7, .freeRaw "l"]
    ((session.execute swap).outcome = .ok (some (.slot .empty)) ∧
      swap.releases "s" = false ∧ swap.definesName "s" = false ∧ swap.stores ≠ some "s" ∧
      (session.after swap).bindings.find? "s" = session.bindings.find? "s" ∧
      swap.stores = some "l" ∧ ∃ index old new,
        swap.addresses = some ("l", index) ∧ session.Holds "l" old ∧
          (session.after swap).Holds "l" new ∧ old.SameBut index.toNat new) ∧
    ((session.execute share).outcome = .ok (some (.slot (.full 4))) ∧
      share.op.onlyReads = true ∧ session.after share = session) ∧
    (session.Holds "kept" (.sequence ⟨[0]⟩) ∧
      (∀ step ∈ session.succeeding steps, step.definesName "kept" = false) ∧
      (session.runAll steps).Holds "kept" (.sequence ⟨[0]⟩)) := by
  intro session swap share steps
  have swapped : (session.execute swap).outcome = .ok (some (.slot .empty)) := rfl
  have shared : (session.execute share).outcome = .ok (some (.slot (.full 4))) := rfl
  have held : session.Holds "kept" (.sequence ⟨[0]⟩) := by
    rw [Session.Holds]
    decide +kernel
  have undefined : ∀ step ∈ session.succeeding steps, step.definesName "kept" = false := by
    decide +kernel
  obtain ⟨_, elsewhere, inside, _⟩ :=
    (successful_steps_change_what_they_declare session).1 swap _ swapped
  obtain ⟨_, _, _, reads⟩ := (successful_steps_change_what_they_declare session).1 share _ shared
  refine ⟨⟨swapped, rfl, rfl, by decide, ?_, rfl, inside "l" rfl⟩, ⟨shared, rfl, (reads rfl).1⟩,
    ⟨held, undefined, ?_⟩⟩
  · exact elsewhere "s" rfl rfl (by decide)
  · exact (successful_steps_change_what_they_declare session).2 "kept" ⟨[0]⟩ held steps undefined

end LinearStore
