import LinearStore.Proofs.Allocation
import LinearStore.Proofs.LinearArray
import LinearStore.Proofs.Script.Validity
import LinearStore.Proofs.Session.Rules
import LinearStore.Proofs.SlotArray

set_option autoImplicit false

namespace LinearStore

open Session

variable {α : Type}

namespace Session

theorem bindings_eq {left right : Session α} (config : left.config = right.config)
    (bindings : left.bindings = right.bindings) : left = right := by
  obtain ⟨_, _⟩ := left
  obtain ⟨_, _⟩ := right
  subst config
  subst bindings
  rfl

@[simp] theorem bind_remove (session : Session α) (name : String) (binding : Binding α) :
    (session.remove name).bind name binding = session.bind name binding :=
  bindings_eq rfl (Table.insert_erase ..)

@[simp] theorem consume_remove (session : Session α) (name : String) (op : Op) :
    (session.remove name).consume name op = session.consume name op :=
  bindings_eq rfl (Table.insert_erase ..)

theorem bind_of_holds {session : Session α} {name : String} {binding : Binding α}
    (found : session.Holds name binding) : session.bind name binding = session :=
  bindings_eq rfl (Table.insert_of_find found)

theorem bind_remove_of_holds {session : Session α} {name : String} {binding : Binding α}
    (found : session.Holds name binding) :
    (session.remove name).bind name binding = session := by
  rw [bind_remove, bind_of_holds found]

theorem bind_remove_of_ne (session : Session α) {name other : String} (binding : Binding α)
    (different : other ≠ name) :
    (session.remove name).bind other binding = (session.bind other binding).remove name :=
  bindings_eq rfl (Table.erase_insert_of_ne _ _ different)

theorem holds_remove_of_ne {session : Session α} {name other : String} {binding : Binding α}
    (different : other ≠ name) (found : session.Holds other binding) :
    (session.remove name).Holds other binding := by
  rw [Holds, remove, Table.find_erase, if_neg different]
  exact found

theorem holds_of_live {session : Session α} {name : String} {kind : Kind}
    (live : session.state name = some (.live kind)) :
    ∃ binding, session.Holds name binding ∧ binding.kind = kind := by
  obtain ⟨entry, found, state⟩ := Option.map_eq_some_iff.mp live
  cases entry with
  | consumed op => cases state
  | live binding => exact ⟨binding, found, NameState.live.inj state⟩

theorem holds_seq {session : Session α} {name : String}
    (live : session.state name = some (.live .seq)) : ∃ array, session.Holds name (.seq array) := by
  obtain ⟨binding, found, kind⟩ := holds_of_live live
  cases binding with
  | seq array => exact ⟨array, found⟩
  | lseq array | maybe slot | sequence contents => cases kind

theorem holds_lseq {session : Session α} {name : String}
    (live : session.state name = some (.live .lseq)) :
    ∃ array, session.Holds name (.lseq array) := by
  obtain ⟨binding, found, kind⟩ := holds_of_live live
  cases binding with
  | lseq array => exact ⟨array, found⟩
  | seq array | maybe slot | sequence contents => cases kind

theorem holds_maybe {session : Session α} {name : String}
    (live : session.state name = some (.live .maybe)) :
    ∃ slot, session.Holds name (.maybe slot) := by
  obtain ⟨binding, found, kind⟩ := holds_of_live live
  cases binding with
  | maybe slot => exact ⟨slot, found⟩
  | seq array | lseq array | sequence contents => cases kind

theorem holds_sequence {session : Session α} {name : String}
    (live : session.state name = some (.live .sequence)) :
    ∃ contents, session.Holds name (.sequence contents) := by
  obtain ⟨binding, found, kind⟩ := holds_of_live live
  cases binding with
  | sequence contents => exact ⟨contents, found⟩
  | seq array | lseq array | maybe slot => cases kind

theorem seq_of_holds {session : Session α} {name : String} {array : LinearArray α}
    (found : session.Holds name (.seq array)) : session.seq name = .ok array := by
  rw [seq, found]

theorem lseq_of_holds {session : Session α} {name : String} {array : SlotArray α}
    (found : session.Holds name (.lseq array)) : session.lseq name = .ok array := by
  rw [lseq, found]

theorem maybe_of_holds {session : Session α} {name : String} {slot : Slot α}
    (found : session.Holds name (.maybe slot)) : session.maybe name = .ok slot := by
  rw [maybe, found]

theorem sequence_of_holds {session : Session α} {name : String} {contents : Sequence α}
    (found : session.Holds name (.sequence contents)) : session.sequence name = .ok contents := by
  rw [sequence, found]

theorem take_seq_of_holds {session : Session α} {name : String} {array : LinearArray α}
    (found : session.Holds name (.seq array)) :
    session.takeSeq name = .ok (array, session.remove name) := by
  rw [takeSeq, seq_of_holds found]
  rfl

theorem take_lseq_of_holds {session : Session α} {name : String} {array : SlotArray α}
    (found : session.Holds name (.lseq array)) :
    session.takeLseq name = .ok (array, session.remove name) := by
  rw [takeLseq, lseq_of_holds found]
  rfl

theorem take_maybe_of_holds {session : Session α} {name : String} {slot : Slot α}
    (found : session.Holds name (.maybe slot)) :
    session.takeMaybe name = .ok (slot, session.remove name) := by
  rw [takeMaybe, maybe_of_holds found]
  rfl

end Session

namespace Execution

def Obeys [Allocator] (execution : Execution α) (session : Session α) (step : Step α) : Prop :=
  match execution.outcome with
  | .ok answer => session.Effect step answer execution.session
  | .error fault => session.Refuses step fault ∧ execution.session = session

variable [Allocator] {session : Session α} {step : Step α}

theorem obeys_done {next : Session α} (effect : session.Effect step none next) :
    (done next).Obeys session step := effect

theorem obeys_answer {next : Session α} {given : Answer α}
    (effect : session.Effect step (some given) next) : (answer given next).Obeys session step :=
  effect

theorem obeys_refuse {left : Session α} {fault : Fault} (refused : session.Refuses step fault)
    (restored : left = session) : (refuse fault left).Obeys session step :=
  ⟨refused, restored⟩

theorem obeys_denied {length : UInt64} {fault : Fault} (requested : step.requests = some length)
    (denied : session.config.limits.grant payloadBytes length.toNat = .error fault) :
    (refuse fault session).Obeys session step := by
  obtain ⟨reason, rfl⟩ := Limits.grant_error denied
  exact obeys_refuse (.denied requested denied) rfl

theorem obeys_logging {events : List Event} {execution : Execution α}
    (obeys : execution.Obeys session step) : (execution.logging events).Obeys session step := obeys

end Execution

namespace Session

open Execution

variable [Allocator] {session : Session α} {name : String}

theorem alloc_obeys (session : Session α) (name : String) (length : UInt64) :
    (session.performAlloc name length.toNat).Obeys session (.alloc name length) := by
  simp only [performAlloc, LinearArray.allocate_constant]
  apply obeys_logging
  cases granted : session.config.limits.grant payloadBytes length.toNat with
  | error fault => exact obeys_denied rfl granted
  | ok _ => exact obeys_done (.alloc granted)

theorem alloc_raw_obeys (session : Session α) (name : String) (length : UInt64) :
    (session.performAllocRaw name length.toNat).Obeys session (.allocRaw name length) := by
  simp only [performAllocRaw, SlotArray.allocate_eq]
  apply obeys_logging
  cases granted : session.config.limits.grant payloadBytes length.toNat with
  | error fault => exact obeys_denied rfl granted
  | ok _ => exact obeys_done (.allocRaw granted)

-- The limit and the machine are asked one after the other here, and together elsewhere.
theorem alloc_init_obeys (session : Session α) (name : String) (length : UInt64) (value : α) :
    (session.performAllocInit name length.toNat value).Obeys session
      (.allocInit name length value) := by
  simp only [performAllocInit, LinearArray.allocateInit]
  cases checked : session.config.limits.check length.toNat with
  | error fault =>
      have denied := Limits.grant_of_exceeded payloadBytes checked
      exact obeys_denied rfl denied
  | ok _ =>
      have asked := Limits.grant_of_within payloadBytes checked
      cases reserved : Allocation.reserve payloadBytes length.toNat with
      | error fault => exact obeys_denied rfl (asked.trans reserved)
      | ok _ => exact obeys_done (.allocInit (asked.trans reserved))

theorem get_obeys {array : LinearArray α} (found : session.Holds name (.seq array))
    (index : UInt64) :
    (session.perform (.get name index)).Obeys session (.get name index) := by
  change (withValue session (session.seq name) _).Obeys _ _
  simp only [seq_of_holds found, withValue]
  rcases array.read_or_outside index.toNat with outside | ⟨value, read⟩
  · rw [LinearArray.get_of_outside outside]
    exact obeys_refuse (.outside rfl found rfl outside) rfl
  · rw [LinearArray.get_of_read read]
    exact obeys_answer (.get found read)

theorem length_obeys {array : LinearArray α} (found : session.Holds name (.seq array)) :
    (session.perform (.length name)).Obeys session (.length name) := by
  change (withValue session (session.seq name) _).Obeys _ _
  rw [seq_of_holds found]
  exact obeys_answer (.length found)

theorem set_obeys {array : LinearArray α} (found : session.Holds name (.seq array))
    (index : UInt64) (value : α) :
    (session.performSet name index.toNat value).Obeys session (.set name index value) := by
  simp only [performSet, take_seq_of_holds found, withValue]
  apply obeys_logging
  rcases array.read_or_outside index.toNat with outside | ⟨old, read⟩
  · rw [LinearArray.set_of_outside outside]
    exact obeys_refuse (.outside rfl found rfl outside) (bind_remove_of_holds found)
  · rw [LinearArray.set_of_read read]
    simp only [bind_remove]
    exact obeys_done (.set found read)

theorem unleash_obeys {array : LinearArray α} (found : session.Holds name (.seq array))
    (into : String) :
    (session.performUnleash .unleash name into).Obeys session (.unleash name into) := by
  simp only [performUnleash, take_seq_of_holds found, withValue, consume_remove]
  exact obeys_logging (obeys_answer (.unleash found))

theorem free_obeys {array : LinearArray α} (found : session.Holds name (.seq array)) :
    (session.performFree .free name).Obeys session (.free name) := by
  simp only [performFree, take_seq_of_holds found, withValue, consume_remove]
  exact obeys_logging (obeys_done (.free found))

theorem select_obeys {contents : Sequence α} (found : session.Holds name (.sequence contents))
    (index : UInt64) :
    (session.performSelect name index.toNat).Obeys session (.select name index) := by
  simp only [performSelect, sequence_of_holds found, withValue, Sequence.select?]
  cases read : contents.elements[index.toNat]? with
  | none => exact obeys_refuse (.outside rfl found rfl (List.getElem?_eq_none_iff.mp read)) rfl
  | some value => exact obeys_answer (.select found read)

theorem peek_obeys {slot : Slot α} (found : session.Holds name (.maybe slot)) :
    (session.perform (.peek name)).Obeys session (.peek name) := by
  change (withValue session (session.maybe name) _).Obeys _ _
  rw [maybe_of_holds found]
  cases slot with
  | full value => exact obeys_answer (.peek found)
  | empty => exact obeys_refuse (.peek found) rfl

theorem unwrap_obeys {slot : Slot α} (found : session.Holds name (.maybe slot)) :
    (session.performUnwrap .unwrap name).Obeys session (.unwrap name) := by
  simp only [performUnwrap, maybe_of_holds found, take_maybe_of_holds found, withValue]
  cases slot with
  | full value =>
      have taken := obeys_answer (Effect.unwrap found)
      rwa [← consume_remove] at taken
  | empty => exact obeys_refuse (.unwrap found) rfl

theorem discard_obeys {slot : Slot α} (found : session.Holds name (.maybe slot)) :
    (session.performDiscard .discard name).Obeys session (.discard name) := by
  simp only [performDiscard, take_maybe_of_holds found, withValue, consume_remove]
  exact obeys_done (.discard found)

theorem length_raw_obeys {array : SlotArray α} (found : session.Holds name (.lseq array)) :
    (session.perform (.lengthRaw name)).Obeys session (.lengthRaw name) := by
  change (withValue session (session.lseq name) _).Obeys _ _
  rw [lseq_of_holds found]
  exact obeys_answer (.lengthRaw found)

theorem share_raw_obeys {array : SlotArray α} (found : session.Holds name (.lseq array))
    (index : UInt64) :
    (session.perform (.shareRaw name index)).Obeys session (.shareRaw name index) := by
  change (withValue session (session.lseq name) _).Obeys _ _
  simp only [lseq_of_holds found, withValue]
  rcases array.read_or_outside index.toNat with outside | ⟨slot, read⟩
  · rw [SlotArray.share_of_outside outside]
    exact obeys_refuse (.outside rfl found rfl outside) rfl
  · rw [SlotArray.share_of_read read]
    exact obeys_answer (.shareRaw found read)

-- Both bindings are out of the table when the swap is tried. They have different kinds and so
-- different names, and each goes back under its own.
theorem swap_raw_obeys {array : SlotArray α} {source : String} {slot : Slot α}
    (found : session.Holds name (.lseq array)) (brought : session.Holds source (.maybe slot))
    (index : UInt64) (into : String) :
    (session.performSwap .swapRaw name index.toNat source into).Obeys session
      (.swapRaw name index source into) := by
  have different : source ≠ name := by
    rintro rfl
    have same := found.symm.trans brought
    cases same
  have restored : ∀ binding, ((session.remove name).remove source).bind name binding =
      (session.bind name binding).remove source := by
    intro binding
    rw [bind_remove_of_ne _ _ (Ne.symm different), bind_remove]
  simp only [performSwap, take_lseq_of_holds found,
    take_maybe_of_holds (holds_remove_of_ne different brought), withValue]
  apply obeys_logging
  rcases array.read_or_outside index.toNat with outside | ⟨old, read⟩
  · rw [SlotArray.swap_of_outside outside]
    refine obeys_refuse (.outside rfl found rfl outside) ?_
    rw [restored, bind_remove, bind_of_holds found, bind_of_holds brought]
  · rw [SlotArray.swap_of_read read]
    simp only [restored, consume_remove]
    exact obeys_answer (.swapRaw found brought read)

theorem take_obeys {array : SlotArray α} (found : session.Holds name (.lseq array))
    (index : UInt64) :
    (session.performTake name index.toNat).Obeys session (.take name index) := by
  simp only [performTake, take_lseq_of_holds found, withValue]
  apply obeys_logging
  rcases array.read_or_outside index.toNat with outside | ⟨slot, read⟩
  · rw [SlotArray.take_of_outside outside]
    exact obeys_refuse (.outside rfl found rfl outside) (bind_remove_of_holds found)
  · cases slot with
    | full value =>
        rw [SlotArray.take_of_full read]
        simp only [bind_remove]
        exact obeys_answer (.take found read)
    | empty =>
        rw [SlotArray.take_of_empty read]
        exact obeys_refuse (.take found read) (bind_remove_of_holds found)

theorem put_obeys {array : SlotArray α} (found : session.Holds name (.lseq array))
    (index : UInt64) (value : α) :
    (session.performPut name index.toNat value).Obeys session (.put name index value) := by
  simp only [performPut, take_lseq_of_holds found, withValue]
  rcases array.read_or_outside index.toNat with outside | ⟨slot, read⟩
  · rw [SlotArray.give_of_outside outside]
    exact obeys_refuse (.outside rfl found rfl outside) (bind_remove_of_holds found)
  · cases slot with
    | full old =>
        rw [SlotArray.give_of_full read]
        exact obeys_refuse (.put found read) (bind_remove_of_holds found)
    | empty =>
        rw [SlotArray.give_of_empty read]
        simp only [bind_remove]
        exact obeys_done (.put found read)

theorem checked_free_obeys {array : SlotArray α} {step : Step α}
    (found : session.Holds name (.lseq array))
    (freed : array.fullCount = 0 → session.Effect step none (session.consume name step.op))
    (refused : array.fullCount ≠ 0 → session.Refuses step
      (.contractViolation (.freeWithOccupiedSlots array.fullCount))) :
    (session.performCheckedFree step.op name).Obeys session step := by
  simp only [performCheckedFree, take_lseq_of_holds found, withValue]
  apply obeys_logging
  by_cases vacant : array.fullCount = 0
  · rw [SlotArray.free_of_vacant vacant]
    simp only [consume_remove]
    exact obeys_done (freed vacant)
  · rw [SlotArray.free_of_occupied vacant]
    exact obeys_refuse (refused vacant) (bind_remove_of_holds found)

theorem free_raw_obeys {array : SlotArray α} (found : session.Holds name (.lseq array)) :
    (session.perform (.freeRaw name)).Obeys session (.freeRaw name) := by
  change (if session.config.strictFree then _ else _ : Execution α).Obeys _ _
  by_cases strict : session.config.strictFree = true
  · rw [if_pos strict]
    exact checked_free_obeys found (fun vacant => .freeRaw found fun _ => vacant)
      (fun occupied => .freeRaw strict found occupied)
  · rw [if_neg strict]
    simp only [performRelease, take_lseq_of_holds found, withValue, consume_remove]
    exact obeys_logging (obeys_done (.freeRaw found fun isStrict => absurd isStrict strict))

theorem perform_obeys (session : Session α) {step : Step α}
    (valid : step.validate session.state = .ok ()) :
    (session.perform step).Obeys session step := by
  have live : ∀ use ∈ step.uses, session.state use.name = some (.live use.kind) :=
    fun use used => Step.live_of_validate valid used
  cases step with
  | alloc name length => exact alloc_obeys session name length
  | allocInit name length value => exact alloc_init_obeys session name length value
  | allocRaw name length => exact alloc_raw_obeys session name length
  | give name value => exact obeys_done .give
  | empty name => exact obeys_done .empty
  | get name index =>
      obtain ⟨array, found⟩ := holds_seq (live (.reads name .seq) (by simp [Step.uses]))
      exact get_obeys found index
  | set name index value =>
      obtain ⟨array, found⟩ := holds_seq (live (.reads name .seq) (by simp [Step.uses]))
      exact set_obeys found index value
  | length name =>
      obtain ⟨array, found⟩ := holds_seq (live (.reads name .seq) (by simp [Step.uses]))
      exact length_obeys found
  | free name =>
      obtain ⟨array, found⟩ := holds_seq (live (.consuming name .seq) (by simp [Step.uses]))
      exact free_obeys found
  | unleash name into =>
      obtain ⟨array, found⟩ := holds_seq (live (.consuming name .seq) (by simp [Step.uses]))
      exact unleash_obeys found into
  | select name index =>
      obtain ⟨contents, found⟩ := holds_sequence
        (live (.reads name .sequence) (by simp [Step.uses]))
      exact select_obeys found index
  | peek name =>
      obtain ⟨slot, found⟩ := holds_maybe (live (.reads name .maybe) (by simp [Step.uses]))
      exact peek_obeys found
  | unwrap name =>
      obtain ⟨slot, found⟩ := holds_maybe (live (.consuming name .maybe) (by simp [Step.uses]))
      exact unwrap_obeys found
  | discard name =>
      obtain ⟨slot, found⟩ := holds_maybe (live (.consuming name .maybe) (by simp [Step.uses]))
      exact discard_obeys found
  | lengthRaw name =>
      obtain ⟨array, found⟩ := holds_lseq (live (.reads name .lseq) (by simp [Step.uses]))
      exact length_raw_obeys found
  | swapRaw name index source into =>
      obtain ⟨array, found⟩ := holds_lseq (live (.reads name .lseq) (by simp [Step.uses]))
      obtain ⟨slot, brought⟩ := holds_maybe
        (live (.consuming source .maybe) (by simp [Step.uses]))
      exact swap_raw_obeys found brought index into
  | shareRaw name index =>
      obtain ⟨array, found⟩ := holds_lseq (live (.reads name .lseq) (by simp [Step.uses]))
      exact share_raw_obeys found index
  | take name index =>
      obtain ⟨array, found⟩ := holds_lseq (live (.reads name .lseq) (by simp [Step.uses]))
      exact take_obeys found index
  | put name index value =>
      obtain ⟨array, found⟩ := holds_lseq (live (.reads name .lseq) (by simp [Step.uses]))
      exact put_obeys found index value
  | freeRaw name =>
      obtain ⟨array, found⟩ := holds_lseq (live (.consuming name .lseq) (by simp [Step.uses]))
      exact free_raw_obeys found
  | freeLseq name =>
      obtain ⟨array, found⟩ := holds_lseq (live (.consuming name .lseq) (by simp [Step.uses]))
      exact checked_free_obeys found (.freeLseq found) (.freeLseq found)

theorem execute_of_valid {session : Session α} {step : Step α}
    (valid : step.validate session.state = .ok ()) :
    (session.execute step).Obeys session step := by
  rw [execute, valid]
  exact obeys_logging (perform_obeys session valid)

theorem execute_of_violation {session : Session α} {step : Step α} {violation : Violation}
    (invalid : step.validate session.state = .error violation) :
    session.execute step = refuse (.contractViolation violation) session := by
  rw [execute, invalid]

theorem execute_ok {session : Session α} {step : Step α} {answer : Option (Answer α)}
    (succeeded : (session.execute step).outcome = .ok answer) :
    step.validate session.state = .ok () ∧
      session.Effect step answer (session.execute step).session := by
  cases valid : step.validate session.state with
  | error violation =>
      rw [execute_of_violation valid] at succeeded
      cases succeeded
  | ok _ =>
      have obeys := execute_of_valid valid
      rw [Obeys, succeeded] at obeys
      exact ⟨rfl, obeys⟩

theorem execute_error {session : Session α} {step : Step α} {fault : Fault}
    (failed : (session.execute step).outcome = .error fault) :
    (session.execute step).session = session ∧
      ((∃ violation, step.validate session.state = .error violation ∧
          fault = .contractViolation violation) ∨
        step.validate session.state = .ok () ∧ session.Refuses step fault) := by
  cases valid : step.validate session.state with
  | error violation =>
      rw [execute_of_violation valid] at failed ⊢
      exact ⟨rfl, Or.inl ⟨violation, rfl, (Except.error.inj failed).symm⟩⟩
  | ok _ =>
      have obeys := execute_of_valid valid
      rw [Obeys, failed] at obeys
      exact ⟨obeys.2, Or.inr ⟨rfl, obeys.1⟩⟩

end Session

end LinearStore
