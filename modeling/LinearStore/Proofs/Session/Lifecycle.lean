import LinearStore.Allocation
import LinearStore.Proofs.Session.Population
import LinearStore.Proofs.Session.Reporting

set_option autoImplicit false

namespace LinearStore

variable {α : Type}

namespace Event

def isLseqAllocation : Event → Bool := logged .trace "lseq_alloc_raw"

def isLseqRelease : Event → Bool := logged .trace "lseq_free_raw"

def isDiscardWarning : Event → Bool := logged .warn "lseq_free_raw discarding occupied slots"

def endsLseq (event : Event) : Bool := event.isDiscardWarning || event.isLseqRelease

end Event

def Binding.slotArrays : Binding α → List (SlotArray α)
  | .lseq array => [array]
  | _ => []

def Session.slotArraysAt (session : Session α) (name : String) : List (SlotArray α) :=
  match session.bindings.find? name with
  | some (.live binding) => binding.slotArrays
  | _ => []

def Deed.releasedSlots (deed : Deed α) : List (SlotArray α) :=
  (deed.step.uses.filter Use.consumes).flatMap fun use => deed.before.slotArraysAt use.name

-- What becomes of arrays of slots in a step that succeeds, and what is reported of it.
inductive Deed.Turn (deed : Deed α) : Prop
  | allocated (length : Nat) (defines : deed.step.definesKind .lseq = true)
      (consumes : deed.step.consumesKind .lseq = false) (released : deed.releasedSlots = [])
      (reported : deed.before.reported deed.step = [.lseqAllocated length])
  | released (array : SlotArray α) (defines : deed.step.definesKind .lseq = false)
      (consumes : deed.step.consumesKind .lseq = true) (released : deed.releasedSlots = [array])
      (vacant : deed.before.config.strictFree = true → array.fullCount = 0)
      (reported : deed.before.reported deed.step = array.releaseEvents)
  | untouched (defines : deed.step.definesKind .lseq = false)
      (consumes : deed.step.consumesKind .lseq = false) (released : deed.releasedSlots = [])
      (silent : ∀ event ∈ deed.before.reported deed.step,
        event.isLseqAllocation = false ∧ event.endsLseq = false)

namespace SlotArray

theorem release_events_eq (array : SlotArray α) :
    array.releaseEvents =
      if array.fullCount = 0 then [.lseqFreed array.length]
      else [.lseqDiscarding array.fullCount array.length, .lseqFreed array.length] := by
  rw [releaseEvents]
  cases array.fullCount <;> rfl

end SlotArray

namespace Session

open Event

variable {session : Session α}

theorem slot_arrays_at_of_holds {name : String} {binding : Binding α}
    (found : session.Holds name binding) :
    session.slotArraysAt name ++ [] = binding.slotArrays := by
  rw [slotArraysAt, found, List.append_nil]

variable [Allocator] {step : Step α} {answer : Option (Answer α)} {next : Session α}

theorem effect_turn (effect : session.Effect step answer next) :
    Deed.Turn ⟨session, step, answer⟩ := by
  cases effect with
  | allocRaw => exact .allocated _ rfl rfl rfl rfl
  | freeRaw found vacant =>
      refine .released _ rfl rfl (slot_arrays_at_of_holds found) vacant ?_
      rw [reported, lseq_of_holds found]
  | freeLseq found vacant =>
      refine .released _ rfl rfl (slot_arrays_at_of_holds found) (fun _ => vacant) ?_
      rw [reported, lseq_of_holds found]
  | get | set | length | select | give | empty | peek | lengthRaw | shareRaw | take | put
  | allocInit =>
      exact .untouched rfl rfl rfl fun event told => absurd told List.not_mem_nil
  | alloc =>
      refine .untouched rfl rfl rfl fun event told => ?_
      cases List.mem_singleton.mp told
      exact ⟨rfl, rfl⟩
  | free found | unleash found =>
      refine .untouched rfl rfl (slot_arrays_at_of_holds found) ?_
      rw [reported, seq_of_holds found]
      intro event told
      cases List.mem_singleton.mp told
      exact ⟨rfl, rfl⟩
  | unwrap found | discard found | swapRaw _ found =>
      refine .untouched rfl rfl (slot_arrays_at_of_holds found) ?_
      exact fun event told => absurd told List.not_mem_nil

end Session

namespace Deed

open Event

variable {deed : Deed α}

theorem Turn.counts (turn : deed.Turn) :
    (deed.before.reported deed.step).countP isLseqAllocation =
        (deed.step.definesKind .lseq).toNat ∧
      (deed.before.reported deed.step).countP isLseqRelease =
        (deed.step.consumesKind .lseq).toNat := by
  cases turn with
  | allocated length defines consumes released reported =>
      rw [reported, defines, consumes]
      exact ⟨rfl, rfl⟩
  | released array defines consumes released vacant reported =>
      rw [reported, defines, consumes, SlotArray.release_events_eq]
      split <;> exact ⟨rfl, rfl⟩
  | untouched defines consumes released silent =>
      rw [defines, consumes]
      refine ⟨List.countP_eq_zero.mpr fun event told => ?_,
        List.countP_eq_zero.mpr fun event told => ?_⟩
      · exact Bool.eq_false_iff.mp (silent event told).1
      · exact Bool.eq_false_iff.mp (Bool.or_eq_false_iff.mp (silent event told).2).2

theorem Turn.endings (turn : deed.Turn) :
    (deed.before.reported deed.step).filter endsLseq =
      deed.releasedSlots.flatMap SlotArray.releaseEvents := by
  cases turn with
  | allocated length defines consumes released reported =>
      rw [reported, released]
      rfl
  | released array defines consumes released vacant reported =>
      rw [reported, released, List.flatMap_singleton, SlotArray.release_events_eq]
      split <;> rfl
  | untouched defines consumes released silent =>
      rw [released]
      exact List.filter_eq_nil_iff.mpr fun event told => Bool.eq_false_iff.mp (silent event told).2

theorem Turn.warnings_of_strict (turn : deed.Turn)
    (strict : deed.before.config.strictFree = true) :
    (deed.before.reported deed.step).filter isDiscardWarning = [] := by
  cases turn with
  | allocated length defines consumes released reported =>
      rw [reported]
      rfl
  | released array defines consumes released vacant reported =>
      rw [reported, SlotArray.release_events_eq, if_pos (vacant strict)]
      rfl
  | untouched defines consumes released silent =>
      refine List.filter_eq_nil_iff.mpr fun event told => Bool.eq_false_iff.mp ?_
      exact (Bool.or_eq_false_iff.mp (silent event told).2).1

end Deed

-- A warning tells what is dropped by the release that is told right after it.
def WarnsBeforeRelease (events : List Event) : Prop :=
  ∀ before warning rest, events = before ++ warning :: rest → warning.isDiscardWarning = true →
    ∃ occupied length later,
      warning = .lseqDiscarding occupied length ∧ rest = .lseqFreed length :: later

namespace WarnsBeforeRelease

variable {first second events : List Event}

theorem of_no_warning (silent : ∀ event ∈ events, event.isDiscardWarning = false) :
    WarnsBeforeRelease events := by
  rintro before warning rest rfl warns
  have quiet := silent warning (List.mem_append_right _ List.mem_cons_self)
  exact absurd warns (Bool.eq_false_iff.mp quiet)

theorem singleton {event : Event} (quiet : event.isDiscardWarning = false) :
    WarnsBeforeRelease [event] := by
  refine of_no_warning fun told member => ?_
  rw [List.mem_singleton.mp member]
  exact quiet

theorem append (warnsFirst : WarnsBeforeRelease first) (warnsSecond : WarnsBeforeRelease second) :
    WarnsBeforeRelease (first ++ second) := by
  intro before warning rest split warns
  rcases List.append_eq_append_iff.mp split with ⟨middle, _, split⟩ | ⟨middle, cut, split⟩
  · exact warnsSecond middle warning rest split warns
  · cases middle with
    | nil => exact warnsSecond [] warning rest split.symm warns
    | cons head tail =>
        obtain ⟨rfl, rfl⟩ := List.cons.inj split
        obtain ⟨occupied, length, later, told, released⟩ := warnsFirst before warning tail cut warns
        exact ⟨occupied, length, later ++ second, told, congrArg (· ++ second) released⟩

theorem release (array : SlotArray α) : WarnsBeforeRelease array.releaseEvents := by
  rw [SlotArray.release_events_eq]
  split
  · exact singleton rfl
  · rintro before warning rest split warns
    cases before with
    | nil =>
        obtain ⟨rfl, rfl⟩ := List.cons.inj split
        exact ⟨_, _, [], rfl, rfl⟩
    | cons head tail =>
        have last : [Event.lseqFreed array.length] = tail ++ warning :: rest :=
          (List.cons.inj split).2
        have told : warning ∈ [Event.lseqFreed array.length] :=
          last ▸ List.mem_append_right tail List.mem_cons_self
        cases List.mem_singleton.mp told
        exact absurd warns Bool.false_ne_true

theorem turn {deed : Deed α} (turn : deed.Turn) :
    WarnsBeforeRelease (deed.before.reported deed.step) := by
  cases turn with
  | allocated length defines consumes released reported =>
      rw [reported]
      exact singleton rfl
  | released array defines consumes released vacant reported =>
      rw [reported]
      exact release array
  | untouched defines consumes released silent =>
      exact of_no_warning fun event told => (Bool.or_eq_false_iff.mp (silent event told).2).1

end WarnsBeforeRelease

namespace Session

open Event

theorem lseq_allocation_tests : TestsReported isLseqAllocation :=
  ⟨fun _ => rfl, fun _ => rfl, fun _ => rfl⟩

theorem lseq_release_tests : TestsReported isLseqRelease :=
  ⟨fun _ => rfl, fun _ => rfl, fun _ => rfl⟩

theorem discard_warning_tests : TestsReported isDiscardWarning :=
  ⟨fun _ => rfl, fun _ => rfl, fun _ => rfl⟩

theorem ends_lseq_tests : TestsReported endsLseq :=
  ⟨fun _ => rfl, fun _ => rfl, fun _ => rfl⟩

variable [Allocator]

theorem deeds_turn {session : Session α} {steps : List (Step α)} {deed : Deed α}
    (done : deed ∈ session.deeds steps) : deed.Turn := by
  obtain ⟨_, next, effect⟩ := deeds_obey done
  exact effect_turn effect

theorem warns_before_release (session : Session α) (steps : List (Step α)) :
    WarnsBeforeRelease (session.eventLog steps) := by
  induction steps generalizing session with
  | nil => exact .of_no_warning fun event told => absurd told List.not_mem_nil
  | cons step rest ih =>
      refine .append ?_ (ih (session.after step))
      cases outcome : (session.execute step).outcome with
      | error fault =>
          have quiet := filter_error_events discard_warning_tests outcome
          refine .of_no_warning fun event told => ?_
          exact Bool.eq_false_iff.mpr (List.filter_eq_nil_iff.mp quiet event told)
      | ok answer =>
          have opening : WarnsBeforeRelease [.execute step.op] := .singleton rfl
          rw [execute_ok_events outcome]
          exact opening.append (.turn (effect_turn (execute_ok outcome).2))

theorem no_warning_of_strict {session : Session α} (strict : session.config.strictFree = true)
    {steps : List (Step α)} {event : Event} (logged : event ∈ session.eventLog steps) :
    event.isDiscardWarning = false := by
  have silent : (session.eventLog steps).filter isDiscardWarning = [] := by
    rw [filter_event_log discard_warning_tests, List.flatMap_eq_nil_iff]
    intro deed done
    have same : deed.before.config = session.config := (deeds_obey done).1
    exact (deeds_turn done).warnings_of_strict (same ▸ strict)
  exact Bool.eq_false_iff.mpr (List.filter_eq_nil_iff.mp silent event logged)

end Session

theorem lseq_events_balance [Allocator] (config : Config α) (steps : List (Step α)) :
    let session := Session.new config
    let log := session.eventLog steps
    (log.countP Event.isLseqAllocation =
      log.countP Event.isLseqRelease + (session.runAll steps).liveCount .lseq) ∧
    (log.filter Event.endsLseq =
      ((session.deeds steps).flatMap Deed.releasedSlots).flatMap fun array =>
        if array.fullCount = 0 then [.lseqFreed array.length]
        else [.lseqDiscarding array.fullCount array.length, .lseqFreed array.length]) ∧
    (∀ before warning rest, log = before ++ warning :: rest → warning.isDiscardWarning = true →
      ∃ occupied length later,
        warning = .lseqDiscarding occupied length ∧ rest = .lseqFreed length :: later) ∧
    (config.strictFree = true → ∀ event, event ∈ log ∨ event ∈ (session.run steps).events →
      event.isDiscardWarning = false) := by
  intro session log
  refine ⟨?_, ?_, Session.warns_before_release session steps, fun strict event told => ?_⟩
  · have allocated : log.countP Event.isLseqAllocation = _ :=
      Session.count_event_log Session.lseq_allocation_tests fun deed done =>
        (Session.deeds_turn done).counts.1
    have released : log.countP Event.isLseqRelease = _ :=
      Session.count_event_log Session.lseq_release_tests fun deed done =>
        (Session.deeds_turn done).counts.2
    have live := Session.live_of_succeeding (rfl : Kind.lseq.isLinear = true) session steps
    have fresh : session.liveCount .lseq = 0 := rfl
    omega
  · rw [Session.filter_event_log Session.ends_lseq_tests, List.flatMap_assoc]
    refine List.flatMap_congr fun deed done => ?_
    rw [(Session.deeds_turn done).endings]
    exact List.flatMap_congr fun array _ => array.release_events_eq
  · rcases told with logged | ran
    · exact Session.no_warning_of_strict strict logged
    · rcases Session.run_from_events ran with logged | ⟨number, op, fault, rfl⟩
      · exact Session.no_warning_of_strict strict logged
      · rfl

-- The full slot is given up with the array it is in, after a checked release was refused for it. A
-- strict session refuses the raw release too.
theorem lseq_events_balance_over_refused_releases :
    let steps : List (Step Nat) :=
      [.allocRaw "l" 2, .put "l" 0 4, .freeLseq "l", .allocRaw "k" 1, .freeRaw "l"]
    let lenient := Session.new (⟨0, {}, false⟩ : Config Nat)
    let strict := Session.new (⟨0, {}, true⟩ : Config Nat)
    let before : List Event :=
      [.execute .allocRaw, .lseqAllocated 2, .execute .put, .execute .freeLseq, .execute .allocRaw,
        .lseqAllocated 1, .execute .freeRaw]
    (lenient.eventLog steps = before ++ .lseqDiscarding 1 2 :: [.lseqFreed 2] ∧
      (Event.lseqDiscarding 1 2).isDiscardWarning = true ∧
      (lenient.runAll steps).liveCount .lseq = 1 ∧
      ∃ occupied length later, Event.lseqDiscarding 1 2 = .lseqDiscarding occupied length ∧
        [Event.lseqFreed 2] = .lseqFreed length :: later) ∧
    (strict.config.strictFree = true ∧ .execute .freeRaw ∈ strict.eventLog steps ∧
      (strict.runAll steps).liveCount .lseq = 2 ∧
      (Event.execute .freeRaw).isDiscardWarning = false) := by
  intro steps lenient strict before
  have logged : lenient.eventLog steps = before ++ .lseqDiscarding 1 2 :: [.lseqFreed 2] := by
    decide +kernel
  have tried : .execute .freeRaw ∈ strict.eventLog steps := by decide +kernel
  refine ⟨⟨logged, rfl, by decide +kernel, ?_⟩, rfl, tried, by decide +kernel, ?_⟩
  · obtain ⟨_, _, warned, _⟩ := lseq_events_balance (⟨0, {}, false⟩ : Config Nat) steps
    exact warned before _ _ logged rfl
  · obtain ⟨_, _, _, silent⟩ := lseq_events_balance (⟨0, {}, true⟩ : Config Nat) steps
    exact silent rfl _ (Or.inl tried)

end LinearStore
