import LinearStore.Proofs.Script.Touch
import LinearStore.Proofs.Script.Writes
import LinearStore.Proofs.Session.Names

set_option autoImplicit false

namespace LinearStore

variable {α : Type}

namespace Session

variable {session : Session α} {step : Step α} {name : String}

theorem find_bind_of_ne (session : Session α) {name other : String} (binding : Binding α)
    (different : other ≠ name) :
    (session.bind name binding).bindings.find? other = session.bindings.find? other :=
  Table.find_insert_of_ne _ _ different

theorem find_consume_of_ne (session : Session α) {name other : String} (op : Op)
    (different : other ≠ name) :
    (session.consume name op).bindings.find? other = session.bindings.find? other :=
  Table.find_insert_of_ne _ _ different

theorem holds_bind (session : Session α) (name : String) (binding : Binding α) :
    (session.bind name binding).Holds name binding :=
  Table.find_insert_self ..

variable [Allocator] {answer : Option (Answer α)} {next : Session α}

theorem effect_state_of_untouched (effect : session.Effect step answer next)
    (untouched : step.touches name = false) : next.state name = session.state name := by
  rw [← find_names, ← find_names, effect_names effect]
  exact Step.find_apply_names_of_untouched untouched session.names

theorem effect_state_of_defined {kind : Kind} (effect : session.Effect step answer next)
    (defined : step.defines = some (name, kind)) : next.state name = some (.live kind) := by
  rw [← find_names, effect_names effect]
  exact Step.find_apply_names_defined defined session.names

theorem effect_defined_or_untouched (effect : session.Effect step answer next)
    {binding : Binding α} (held : next.Holds name binding) :
    step.defines = some (name, binding.kind) ∨ step.touches name = false := by
  cases touched : step.touches name with
  | false => exact Or.inr rfl
  | true =>
      have live := state_of_holds held
      rw [← find_names, effect_names effect, Step.find_apply_names_of_touches touched] at live
      exact Or.inl (Step.leaves_eq_live_iff.mp (Option.some.inj live))

theorem effect_find_of_untouched (effect : session.Effect step answer next)
    (untouched : step.touches name = false) (unstored : step.stores ≠ some name) :
    next.bindings.find? name = session.bindings.find? name := by
  have defined {other : String} {kind : Kind} (defines : step.defines = some (other, kind)) :
      name ≠ other := Step.ne_of_untouched_definition untouched defines
  have consumed {use : Use} (used : use ∈ step.uses) (consumes : use.consumes = true) :
      name ≠ use.name := Step.ne_of_untouched_use untouched used consumes
  have stored {other : String} (stores : step.stores = some other) : name ≠ other := by
    rintro rfl
    exact unstored stores
  cases effect with
  | get | length | select | peek | lengthRaw | shareRaw => rfl
  | alloc | allocInit | allocRaw | give | empty => exact find_bind_of_ne _ _ (defined rfl)
  | set | take | put => exact find_bind_of_ne _ _ (stored rfl)
  | free | unwrap | discard | freeRaw | freeLseq =>
      exact find_consume_of_ne _ _ (consumed List.mem_cons_self rfl)
  | unleash =>
      refine (find_bind_of_ne _ _ (defined rfl)).trans ?_
      exact find_consume_of_ne _ _ (consumed List.mem_cons_self rfl)
  | swapRaw =>
      refine (find_bind_of_ne _ _ (defined rfl)).trans ?_
      refine (find_consume_of_ne _ _
        (consumed (List.mem_cons_of_mem _ List.mem_cons_self) rfl)).trans ?_
      exact find_bind_of_ne _ _ (stored rfl)

-- A swap also consumes a name and defines one, which may be the name of its array only if the array
-- does not stay.
theorem effect_stored (effect : session.Effect step answer next)
    (untouched : step.touches name = false) (stored : step.stores = some name) :
    (∃ index value array, step = .set name index value ∧ session.Holds name (.seq array) ∧
      next.Holds name (.seq ⟨array.elements.set index.toNat value⟩)) ∨
    ∃ index slot array, step.addresses = some (name, index) ∧ session.Holds name (.lseq array) ∧
      next.Holds name (.lseq ⟨array.slots.set index.toNat slot⟩) := by
  cases effect with
  | @set name' index value old array found =>
      cases stored
      exact Or.inl ⟨index, value, array, rfl, found, holds_bind ..⟩
  | take found | put found =>
      cases stored
      exact Or.inr ⟨_, _, _, rfl, found, holds_bind ..⟩
  | @swapRaw name' index source into array new old found =>
      cases stored
      have notInto : name ≠ into := Step.ne_of_untouched_definition untouched rfl
      have notSource : name ≠ source :=
        Step.ne_of_untouched_use untouched (List.mem_cons_of_mem _ List.mem_cons_self) rfl
      refine Or.inr ⟨index, new, array, rfl, found, ?_⟩
      rw [Holds, find_bind_of_ne _ _ notInto, find_consume_of_ne _ _ notSource]
      exact holds_bind ..
  | _ => cases stored

end Session

end LinearStore
