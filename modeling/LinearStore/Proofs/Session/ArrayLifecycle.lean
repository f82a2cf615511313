import LinearStore.Allocation
import LinearStore.Proofs.Session.Population
import LinearStore.Proofs.Session.Readback
import LinearStore.Proofs.Session.Reporting

set_option autoImplicit false

namespace LinearStore

variable {α : Type}

namespace Event

def isSeqAllocation : Event → Bool := logged .trace "seq_alloc"

def isSeqFree : Event → Bool := logged .trace "seq_free"

def isSeqUnleash : Event → Bool := logged .trace "seq_unleash"

def endsSeq (event : Event) : Bool := event.isSeqFree || event.isSeqUnleash

end Event

namespace Session

open Event

theorem seq_allocation_tests : TestsReported isSeqAllocation :=
  ⟨fun _ => rfl, fun _ => rfl, fun _ => rfl⟩

theorem seq_free_tests : TestsReported isSeqFree :=
  ⟨fun _ => rfl, fun _ => rfl, fun _ => rfl⟩

theorem seq_unleash_tests : TestsReported isSeqUnleash :=
  ⟨fun _ => rfl, fun _ => rfl, fun _ => rfl⟩

theorem ends_seq_tests : TestsReported endsSeq :=
  ⟨fun _ => rfl, fun _ => rfl, fun _ => rfl⟩

section Counts

theorem steps_count_split {whole first second : Step α → Bool}
    (shares : ∀ step, (whole step).toNat = (first step).toNat + (second step).toNat)
    (steps : List (Step α)) :
    steps.countP whole = steps.countP first + steps.countP second := by
  induction steps with
  | nil => rfl
  | cons step rest ih =>
      have here := shares step
      rw [steps_count_cons, steps_count_cons, steps_count_cons]
      omega

theorem count_defines_seq (steps : List (Step α)) :
    steps.countP (Step.definesKind .seq) =
      steps.countP (fun step => step.op == .alloc) +
        steps.countP fun step => step.op == .allocInit := by
  apply steps_count_split
  intro step
  cases step <;> rfl

theorem count_consumes_seq (steps : List (Step α)) :
    steps.countP (Step.consumesKind .seq) =
      steps.countP (fun step => step.op == .free) +
        steps.countP fun step => step.op == .unleash := by
  apply steps_count_split
  intro step
  cases step <;> rfl

end Counts

-- The operations that end an array of a length, and what the log tells of it.
inductive Ends : Op → Event → Nat → Prop
  | free (length : Nat) : Ends .free (.seqFreed length) length
  | unleash (length : Nat) : Ends .unleash (.seqUnleashed length) length

-- The operations that allocate an array of a length, and all that the log tells of them.
inductive Begins : Op → List Event → Nat → Prop
  | told (length : Nat) : Begins .alloc [.execute .alloc, .seqAllocated length] length
  | untold (length : Nat) : Begins .allocInit [.execute .allocInit] length

inductive ArrayTurn (session : Session α) (step : Step α) : Prop
  | allocated (length : Nat) (op : step.op = .alloc)
      (reported : session.reported step = [.seqAllocated length])
  | ended (name : String) (array : LinearArray α) (event : Event)
      (released : step.releases name = true) (held : session.Holds name (.seq array))
      (ends : Ends step.op event array.length) (reported : session.reported step = [event])
  | untouched (other : step.op ≠ .alloc ∧ step.op ≠ .free ∧ step.op ≠ .unleash)
      (silent : ∀ event ∈ session.reported step,
        event.isSeqAllocation = false ∧ event.endsSeq = false)

variable {session : Session α} {step : Step α}

theorem silent_of_lseq {name : String} {array : SlotArray α}
    (found : session.Holds name (.lseq array)) :
    ∀ event ∈ session.reported (.freeLseq name),
      event.isSeqAllocation = false ∧ event.endsSeq = false := by
  rw [reported, lseq_of_holds found]
  simp only [SlotArray.releaseEvents]
  cases array.fullCount with
  | zero =>
      intro event told
      cases List.mem_singleton.mp told
      exact ⟨rfl, rfl⟩
  | succ occupied =>
      refine List.forall_mem_cons.mpr ⟨⟨rfl, rfl⟩, fun event told => ?_⟩
      cases List.mem_singleton.mp told
      exact ⟨rfl, rfl⟩

theorem count_of_silent {events : List Event} {test : Event → Bool}
    (silent : ∀ event ∈ events, test event = false) : events.countP test = 0 :=
  List.countP_eq_zero.mpr fun event told => Bool.eq_false_iff.mp (silent event told)

theorem ArrayTurn.counts (turn : session.ArrayTurn step) :
    (session.reported step).countP isSeqAllocation = (step.op == .alloc).toNat ∧
      (session.reported step).countP isSeqFree = (step.op == .free).toNat ∧
      (session.reported step).countP isSeqUnleash = (step.op == .unleash).toNat := by
  cases turn with
  | allocated length op reported =>
      rw [reported, op]
      exact ⟨rfl, rfl, rfl⟩
  | ended name array event released held ends reported =>
      rw [reported]
      cases opEq : step.op <;> rw [opEq] at ends <;> cases ends <;> exact ⟨rfl, rfl, rfl⟩
  | untouched other silent =>
      obtain ⟨notAlloc, notFree, notUnleash⟩ := other
      rw [beq_false_of_ne notAlloc, beq_false_of_ne notFree, beq_false_of_ne notUnleash]
      have untold (event : Event) (told : event ∈ session.reported step) :
          event.isSeqFree = false ∧ event.isSeqUnleash = false :=
        Bool.or_eq_false_iff.mp (silent event told).2
      exact ⟨count_of_silent fun event told => (silent event told).1,
        count_of_silent fun event told => (untold event told).1,
        count_of_silent fun event told => (untold event told).2⟩

theorem ArrayTurn.ending (turn : session.ArrayTurn step) {event : Event}
    (told : event ∈ session.reported step) (ends : event.endsSeq = true) :
    session.reported step = [event] ∧ ∃ name array, step.releases name = true ∧
      session.Holds name (.seq array) ∧ Ends step.op event array.length := by
  cases turn with
  | allocated length op reported =>
      rw [reported] at told
      cases List.mem_singleton.mp told
      cases ends
  | ended name array only released held ending reported =>
      rw [reported] at told
      cases List.mem_singleton.mp told
      exact ⟨reported, name, array, released, held, ending⟩
  | untouched other silent =>
      cases ends.symm.trans (silent event told).2

variable [Allocator]

theorem effect_array_turn {answer : Option (Answer α)} {next : Session α}
    (effect : session.Effect step answer next) : session.ArrayTurn step := by
  cases effect with
  | alloc => exact .allocated _ rfl rfl
  | @free name array found =>
      have released : (Step.free name : Step α).releases name = true := by
        simp [Step.releases, Step.uses, Use.consuming]
      refine .ended name array _ released found (.free _) ?_
      rw [reported, seq_of_holds found]
      rfl
  | @unleash name into array found =>
      have released : (Step.unleash name into : Step α).releases name = true := by
        simp [Step.releases, Step.uses, Use.consuming]
      refine .ended name array _ released found (.unleash _) ?_
      rw [reported, seq_of_holds found]
      rfl
  | allocRaw =>
      refine .untouched (by simp [Step.op]) fun event told => ?_
      cases List.mem_singleton.mp told
      exact ⟨rfl, rfl⟩
  | freeRaw found | freeLseq found =>
      exact .untouched (by simp [Step.op]) (silent_of_lseq found)
  | _ => exact .untouched (by simp [Step.op]) fun event told => absurd told List.not_mem_nil

theorem deeds_array_turn {steps : List (Step α)} {deed : Deed α}
    (done : deed ∈ session.deeds steps) : deed.before.ArrayTurn deed.step := by
  obtain ⟨_, next, effect⟩ := deeds_obey done
  exact effect_array_turn effect

theorem seq_events_balance (config : Config α) (steps : List (Step α)) :
    let session := new config
    let log := session.eventLog steps
    log.countP isSeqAllocation +
        (session.succeeding steps).countP (fun step => step.op == .allocInit) =
      log.countP isSeqFree + log.countP isSeqUnleash + (session.runAll steps).liveCount .seq := by
  intro session log
  have allocated : log.countP isSeqAllocation =
      (session.succeeding steps).countP fun step => step.op == .alloc :=
    count_event_log seq_allocation_tests fun deed done => (deeds_array_turn done).counts.1
  have freed : log.countP isSeqFree =
      (session.succeeding steps).countP fun step => step.op == .free :=
    count_event_log seq_free_tests fun deed done => (deeds_array_turn done).counts.2.1
  have unleashed : log.countP isSeqUnleash =
      (session.succeeding steps).countP fun step => step.op == .unleash :=
    count_event_log seq_unleash_tests fun deed done => (deeds_array_turn done).counts.2.2
  have live := live_of_succeeding (rfl : Kind.seq.isLinear = true) session steps
  have fresh : session.liveCount .seq = 0 := rfl
  rw [count_defines_seq, count_consumes_seq] at live
  omega

theorem begins_of_allocates {name : String} {length : UInt64} {fill filler : α}
    {answer : Option (Answer α)} (succeeded : (session.execute step).outcome = .ok answer)
    (allocates : step.allocates filler = some (name, length, fill)) :
    Begins step.op (session.execute step).events length.toNat := by
  rw [execute_ok_events succeeded]
  cases step with
  | alloc =>
      cases allocates
      exact .told _
  | allocInit =>
      cases allocates
      exact .untold _
  | _ => cases allocates

-- An end of an array that the log tells: the step that tells it, after which steps, and the deed that the
-- array goes back to.
structure EndOfArray (session : Session α) (steps : List (Step α)) (before : List Event)
    (event : Event) (first : List (Step α)) (step : Step α) (name : String)
    (array : LinearArray α) (opening : Deed α) : Prop where
  split : ∃ second, steps = first ++ step :: second
  reached : before = session.eventLog first ++ [.execute step.op]
  released : step.releases name = true
  held : (session.runAll first).Holds name (.seq array)
  ends : Ends step.op event array.length
  introduced : ∃ since, Introduced (session.deeds first) name opening since
  begins : Begins opening.step.op (opening.before.execute opening.step).events array.length
  earlier : (opening.before.execute opening.step).events ⊆ before

theorem step_of_ending {steps : List (Step α)} {before rest : List Event} {event : Event}
    (split : session.eventLog steps = before ++ event :: rest) (ends : event.endsSeq = true) :
    ∃ first step second name array, steps = first ++ step :: second ∧
      before = session.eventLog first ++ [.execute step.op] ∧ step.releases name = true ∧
      (session.runAll first).Holds name (.seq array) ∧ Ends step.op event array.length := by
  obtain ⟨first, step, second, front, back, rfl, rfl, told⟩ := event_log_split split
  have member : event ∈ ((session.runAll first).execute step).events := by
    rw [told]
    exact List.mem_append_right _ List.mem_cons_self
  cases outcome : ((session.runAll first).execute step).outcome with
  | error fault =>
      have none := List.filter_eq_nil_iff.mp (filter_error_events ends_seq_tests outcome)
      exact absurd ends (none event member)
  | ok answer =>
      rw [execute_ok_events outcome] at member told
      have different : event ≠ .execute step.op := by
        rintro rfl
        cases ends
      have reported := (List.mem_cons.mp member).resolve_left different
      obtain ⟨alone, name, array, released, held, ending⟩ :=
        (effect_array_turn (execute_ok outcome).2).ending reported ends
      rw [alone] at told
      refine ⟨first, step, second, name, array, rfl, ?_, released, held, ending⟩
      cases front with
      | nil => exact absurd (List.cons.inj told).1.symm different
      | cons head tail =>
          rw [List.cons_append] at told
          obtain ⟨rfl, later⟩ := List.cons.inj told
          rcases List.append_eq_singleton_iff.mp later.symm with ⟨rfl, _⟩ | ⟨_, none⟩
          · rfl
          · cases none

theorem end_of_array {config : Config α} {steps : List (Step α)} {before rest : List Event}
    {event : Event} (split : (new config).eventLog steps = before ++ event :: rest)
    (ends : event.endsSeq = true) :
    ∃ first step name array opening,
      EndOfArray (new config) steps before event first step name array opening := by
  obtain ⟨first, step, second, name, array, rfl, rfl, released, held, ending⟩ :=
    step_of_ending split ends
  obtain ⟨length, fill, since, ⟨opening, introduced, allocates⟩, elements⟩ :=
    (run_all_recorded config first).arrays name array held
  have long : array.length = length.toNat := by
    rw [LinearArray.length, elements, Script.length_written]
  have done : opening ∈ (new config).deeds first := by
    obtain ⟨earlier, same⟩ := introduced.split
    rw [same]
    exact List.mem_append_right _ List.mem_cons_self
  obtain ⟨succeeded, told⟩ := deeds_told done
  have begins := begins_of_allocates succeeded allocates
  rw [← long] at begins
  exact ⟨first, step, name, array, opening, ⟨second, rfl⟩, rfl, released, held, ending,
    ⟨since, introduced⟩, begins, List.subset_append_of_subset_left _ told⟩

end Session

theorem seq_events_balance_but_for_filled_arrays [Allocator] (config : Config α)
    (steps : List (Step α)) :
    let session := Session.new config
    let log := session.eventLog steps
    let filled := (session.succeeding steps).countP fun step => step.op == .allocInit
    let ended := log.countP Event.isSeqFree + log.countP Event.isSeqUnleash
    let live := (session.runAll steps).liveCount .seq
    (log.countP Event.isSeqAllocation + filled = ended + live) ∧
    (log.countP Event.isSeqAllocation = ended + live ↔
      ∀ step ∈ session.succeeding steps, step.op ≠ .allocInit) ∧
    ∀ before event rest, log = before ++ event :: rest → event.endsSeq = true →
      ∃ first step name array opening,
        session.EndOfArray steps before event first step name array opening := by
  intro session log filled ended live
  have balance : log.countP Event.isSeqAllocation + filled = ended + live :=
    Session.seq_events_balance config steps
  have none : filled = 0 ↔ ∀ step ∈ session.succeeding steps, step.op ≠ .allocInit := by
    simp [filled, List.countP_eq_zero]
  refine ⟨balance, ?_, fun before event rest split ends => Session.end_of_array split ends⟩
  rw [← none]
  omega

-- The first array is filled by its step and ends untold of its beginning; the second takes over its name,
-- is written out of range, and ends after a free that fails.
theorem seq_events_balance_but_for_filled_arrays_under_reuse :
    let session := Session.new (⟨0, {}, false⟩ : Config Nat)
    let steps : List (Step Nat) :=
      [.allocInit "s" 2 7, .unleash "s" "t", .alloc "s" 3, .set "s" 3 9, .free "t", .free "s"]
    let before : List Event := [.execute .allocInit, .execute .unleash]
    let between : List Event :=
      [.execute .alloc, .seqAllocated 3, .execute .set, .seqWriteRejected (.indexOutOfRange 3 3),
        .execute .free]
    let later := before ++ .seqUnleashed 2 :: between
    (session.eventLog steps = before ++ .seqUnleashed 2 :: (between ++ [.seqFreed 3]) ∧
      (Event.seqUnleashed 2).endsSeq = true ∧ ∃ first step name array opening,
        session.EndOfArray steps before (.seqUnleashed 2) first step name array opening) ∧
    (session.eventLog steps = later ++ [.seqFreed 3] ∧ (Event.seqFreed 3).endsSeq = true ∧
      ∃ first step name array opening,
        session.EndOfArray steps later (.seqFreed 3) first step name array opening) := by
  intro session steps before between later
  have logged : session.eventLog steps =
      before ++ .seqUnleashed 2 :: (between ++ [.seqFreed 3]) := by
    decide +kernel
  obtain ⟨_, _, ended⟩ :=
    seq_events_balance_but_for_filled_arrays (⟨0, {}, false⟩ : Config Nat) steps
  exact ⟨⟨logged, rfl, ended before _ _ logged rfl⟩, logged, rfl, ended later _ [] logged rfl⟩

-- A live array that no event speaks of, and the end of an array whose beginning was not told.
theorem filled_arrays_are_not_told :
    let session := Session.new (⟨0, {}, false⟩ : Config Nat)
    let steps : List (Step Nat) := [.allocInit "s" 2 7]
    let log := session.eventLog steps
    let ended := session.eventLog (steps ++ [.free "s"])
    log.countP Event.isSeqAllocation ≠
        log.countP Event.isSeqFree + log.countP Event.isSeqUnleash +
          (session.runAll steps).liveCount .seq ∧
      .seqFreed 2 ∈ ended ∧ ∀ event ∈ ended, event.isSeqAllocation = false := by
  decide +kernel

end LinearStore
