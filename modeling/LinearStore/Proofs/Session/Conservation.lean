import LinearStore.Allocation
import LinearStore.Proofs.Session.History
import LinearStore.Proofs.Session.Weights
import LinearStore.Proofs.SlotArray

set_option autoImplicit false

namespace LinearStore

variable {α : Type}

def Entry.held : Entry α → Multiset α
  | .live (.maybe slot) => slot.toList
  | .live (.lseq array) => array.held
  | _ => 0

namespace Session

def held (session : Session α) : Multiset α := session.weighed Entry.held

def heldAt (session : Session α) (name : String) : Multiset α :=
  ((session.bindings.find? name).map Entry.held).getD 0

end Session

namespace Deed

def brought (deed : Deed α) : Multiset α :=
  match deed.step with
  | .give _ value | .put _ _ value => {value}
  | _ => 0

def returned (deed : Deed α) : Multiset α :=
  match deed.step, deed.answer with
  | .unwrap _, some (.element value) | .take _ _, some (.element value) => {value}
  | _, _ => 0

def discarded (deed : Deed α) : Multiset α :=
  match deed.step with
  | .discard name => deed.before.heldAt name
  | _ => 0

def released (deed : Deed α) : Multiset α :=
  match deed.step with
  | .freeRaw name => deed.before.heldAt name
  | _ => 0

end Deed

theorem held_weighs_linear : WeighsLinear (Entry.held : Entry α → Multiset α) := by
  intro entry dropped
  cases entry with
  | consumed op => rfl
  | live binding =>
      cases binding with
      | seq array | sequence contents => rfl
      | lseq array | maybe slot => cases dropped

namespace Session

variable {session : Session α} {name : String}

theorem held_at_of_holds {binding : Binding α} (found : session.Holds name binding) :
    session.heldAt name = Entry.held (.live binding) := by
  rw [heldAt, found]
  rfl

theorem held_bind
    (hidesNothing : ∀ kind, session.names.find? name = some (.live kind) → kind.isLinear = false)
    (binding : Binding α) :
    (session.bind name binding).held = session.held + Entry.held (.live binding) :=
  weighed_bind held_weighs_linear hidesNothing binding

theorem held_rebind {old : Binding α} (found : session.Holds name old) (new : Binding α) :
    (session.bind name new).held + Entry.held (.live old) =
      session.held + Entry.held (.live new) :=
  weighed_rebind found new

theorem held_consume {old : Binding α} (found : session.Holds name old) (op : Op) :
    (session.consume name op).held + Entry.held (.live old) = session.held :=
  weighed_consume held_weighs_linear found op

theorem held_store {index : UInt64} {array : SlotArray α} {old : Slot α}
    (found : session.Holds name (.lseq array)) (read : array.slots[index.toNat]? = some old)
    (new : Slot α) :
    (session.bind name (.lseq ⟨array.slots.set index.toNat new⟩)).held + old.toList =
      session.held + new.toList := by
  let next := session.bind name (.lseq ⟨array.slots.set index.toNat new⟩)
  have change := held_rebind found (.lseq ⟨array.slots.set index.toNat new⟩)
  refine add_right_cancel (b := (array.held : Multiset α)) ?_
  calc next.held + old.toList + array.held
      = next.held + array.held + old.toList := add_right_comm ..
    _ = session.held + SlotArray.held ⟨array.slots.set index.toNat new⟩ + old.toList :=
        congrArg (· + (old.toList : Multiset α)) change
    _ = session.held + (array.held + new.toList) := by rw [add_assoc, SlotArray.held_set read]
    _ = session.held + new.toList + array.held := by rw [add_comm (array.held : Multiset α),
        add_assoc]

theorem held_swap_raw {index : UInt64} {source into : String} {array : SlotArray α}
    {new old : Slot α}
    (valid : (Step.swapRaw name index source into : Step α).validate session.names.find? = .ok ())
    (found : session.Holds name (.lseq array)) (brought : session.Holds source (.maybe new))
    (read : array.slots[index.toNat]? = some old) :
    (((session.bind name (.lseq ⟨array.slots.set index.toNat new⟩)).consume source
      .swapRaw).bind into (.maybe old)).held = session.held := by
  have change := weighed_swap_raw held_weighs_linear valid found brought
    ⟨array.slots.set index.toNat new⟩ old
  simp only [Entry.held, SlotArray.held_set read new] at change
  exact add_right_cancel change

variable [Allocator]

theorem effect_held {step : Step α} {answer : Option (Answer α)} {next : Session α}
    (valid : step.validate session.names.find? = .ok ()) (effect : session.Effect step answer next) :
    session.held + Deed.brought ⟨session, step, answer⟩ =
      Deed.returned ⟨session, step, answer⟩ + Deed.discarded ⟨session, step, answer⟩ +
        Deed.released ⟨session, step, answer⟩ + next.held := by
  simp only [Deed.brought, Deed.returned, Deed.discarded, Deed.released]
  cases effect with
  | get | length | select | peek | lengthRaw | shareRaw => simp only [zero_add, add_zero]
  | alloc | allocInit | empty =>
      rw [held_bind (Step.hides_nothing valid rfl rfl)]
      simp [Entry.held, Slot.toList]
  | allocRaw =>
      rw [held_bind (Step.hides_nothing valid rfl rfl)]
      simp [Entry.held, SlotArray.held_replicate]
  | give =>
      rw [held_bind (Step.hides_nothing valid rfl rfl)]
      simp [Entry.held, Slot.toList]
  | @set name index value old array found read =>
      have change := held_rebind found (.seq ⟨array.elements.set index.toNat value⟩)
      simpa [Entry.held] using change.symm
  | free found =>
      have change := held_consume found .free
      simpa [Entry.held] using change.symm
  | @unleash name into array found =>
      have change := weighed_unleash held_weighs_linear valid found ⟨array.elements⟩
      simpa [Entry.held, held] using change.symm
  | @unwrap name value found =>
      have change := held_consume found .unwrap
      simpa [Entry.held, Slot.toList, add_comm] using change.symm
  | @discard name slot found =>
      have change := held_consume found .discard
      simpa [held_at_of_holds found, add_comm] using change.symm
  | swapRaw found brought read =>
      rw [held_swap_raw valid found brought read]
      simp only [zero_add, add_zero]
  | @take name index array value found read =>
      have change := held_store found read .empty
      simpa [Slot.toList, add_comm] using change.symm
  | @put name index value array found read =>
      have change := held_store found read (.full value)
      simpa [Slot.toList] using change.symm
  | @freeRaw name array found vacant =>
      have change := held_consume found .freeRaw
      simpa [held_at_of_holds found, add_comm] using change.symm
  | @freeLseq name array found vacant =>
      have change := held_consume found .freeLseq
      simpa [Entry.held, SlotArray.held_of_vacant vacant] using change.symm

theorem effect_releases_nothing {step : Step α} {answer : Option (Answer α)}
    {next : Session α} (strict : session.config.strictFree = true)
    (effect : session.Effect step answer next) : Deed.released ⟨session, step, answer⟩ = 0 := by
  cases effect with
  | @freeRaw name array found vacant =>
      have empty := SlotArray.held_of_vacant (vacant strict)
      simp [Deed.released, held_at_of_holds found, Entry.held, empty]
  | _ => rfl

theorem deeds_conserve (session : Session α) (steps : List (Step α)) :
    session.held + ((session.deeds steps).map Deed.brought).sum =
      ((session.deeds steps).map Deed.returned).sum +
        ((session.deeds steps).map Deed.discarded).sum +
        ((session.deeds steps).map Deed.released).sum + (session.runAll steps).held := by
  induction session, steps using tried_induction with
  | nil session => simp [deeds, runAll]
  | failed session step rest fault outcome ih =>
      rw [deeds_error outcome, run_all_error outcome]
      exact ih
  | succeeded session step rest answer outcome ih =>
      obtain ⟨valid, effect⟩ := execute_ok outcome
      rw [← find_names] at valid
      have now := effect_held valid effect
      rw [deeds_ok outcome, run_all_cons, after]
      simp only [List.map_cons, List.sum_cons]
      rw [← add_assoc, now, add_assoc _ _ (List.sum _), ih]
      abel

theorem deeds_release_nothing (session : Session α) (strict : session.config.strictFree = true)
    (steps : List (Step α)) : ((session.deeds steps).map Deed.released).sum = 0 := by
  induction session, steps using tried_induction with
  | nil session => rfl
  | failed session step rest fault outcome ih =>
      rw [deeds_error outcome]
      exact ih strict
  | succeeded session step rest answer outcome ih =>
      obtain ⟨_, effect⟩ := execute_ok outcome
      rw [deeds_ok outcome, List.map_cons, List.sum_cons, effect_releases_nothing strict effect,
        zero_add]
      exact ih (effect_config effect ▸ strict)

end Session

theorem values_in_slots_conserved [Allocator] (config : Config α) (steps : List (Step α)) :
    let deeds := (Session.new config).deeds steps
    (deeds.map Deed.brought).sum =
        (deeds.map Deed.returned).sum + (deeds.map Deed.discarded).sum +
          (deeds.map Deed.released).sum + ((Session.new config).runAll steps).held ∧
      (config.strictFree = true → (deeds.map Deed.released).sum = 0) := by
  have nothingHeld : (Session.new config).held = 0 := rfl
  have conserved := Session.deeds_conserve (Session.new config) steps
  rw [nothingHeld, zero_add] at conserved
  exact ⟨conserved, fun strict => Session.deeds_release_nothing (Session.new config) strict steps⟩

-- Of the values 4 and 5 the first is displaced and discarded, and the second stays in the array,
-- which a strict session refuses to release.
theorem values_in_slots_conserved_when_strict :
    let config : Config Nat := ⟨0, {}, true⟩
    let steps : List (Step Nat) :=
      [.allocRaw "l" 1, .put "l" 0 4, .give "m" 5, .swapRaw "l" 0 "m" "m", .discard "m",
        .freeRaw "l"]
    let deeds := (Session.new config).deeds steps
    config.strictFree = true ∧ (deeds.map Deed.released).sum = 0 ∧
      ((deeds.map Deed.brought).sum = {4, 5} ∧ (deeds.map Deed.discarded).sum = {4} ∧
        ((Session.new config).runAll steps).held = {5}) := by
  intro config steps deeds
  refine ⟨rfl, (values_in_slots_conserved config steps).2 rfl, ?_, ?_, ?_⟩
  all_goals decide +kernel

end LinearStore
