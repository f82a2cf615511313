import LinearStore.Proofs.Session.History
import LinearStore.Session.Run

set_option autoImplicit false

namespace LinearStore

variable {α : Type}

namespace Session

def reported (session : Session α) : Step α → List Event
  | .alloc _ count => [.seqAllocated count.toNat]
  | .free name =>
      match session.seq name with
      | .ok array => array.freeEvents
      | .error _ => []
  | .unleash name _ =>
      match session.seq name with
      | .ok array => array.unleashEvents
      | .error _ => []
  | .allocRaw _ count => [.lseqAllocated count.toNat]
  | .freeRaw name | .freeLseq name =>
      match session.lseq name with
      | .ok array => array.releaseEvents
      | .error _ => []
  | _ => []

end Session

namespace Execution

def Reports (execution : Execution α) (reported : List Event) : Prop :=
  match execution.outcome with
  | .ok _ => execution.events = reported
  | .error fault =>
      ∀ event ∈ execution.events, event = .seqWriteRejected fault ∨ event = .lseqSwapRejected fault

variable {reported : List Event}

theorem reports_refuse (fault : Fault) (session : Session α) :
    (refuse fault session).Reports reported :=
  fun _ member => absurd member List.not_mem_nil

theorem reports_with_value {γ : Type} {session : Session α} {value : Except Fault γ}
    {rest : γ → Execution α} (reports : ∀ found, value = .ok found → (rest found).Reports reported) :
    (withValue session value rest).Reports reported := by
  cases value with
  | error fault => exact reports_refuse fault session
  | ok found => exact reports found rfl

end Execution

namespace Session

open Execution

section Arrays

variable {session : Session α} {name : String}

theorem seq_of_take_seq {taken : LinearArray α × Session α}
    (took : session.takeSeq name = .ok taken) : session.seq name = .ok taken.1 := by
  rw [takeSeq] at took
  cases found : session.seq name with
  | error fault =>
      rw [found] at took
      cases took
  | ok array =>
      rw [found] at took
      cases took
      rfl

theorem lseq_of_take_lseq {taken : SlotArray α × Session α}
    (took : session.takeLseq name = .ok taken) : session.lseq name = .ok taken.1 := by
  rw [takeLseq] at took
  cases found : session.lseq name with
  | error fault =>
      rw [found] at took
      cases took
  | ok array =>
      rw [found] at took
      cases took
      rfl

end Arrays

theorem set_reports (session : Session α) (name : String) (index : Nat) (value : α) :
    (session.performSet name index value).Reports [] := by
  refine reports_with_value fun (array, rest) _ => ?_
  dsimp only
  cases array.set index value with
  | ok written => rfl
  | error rejected => exact fun event member => Or.inl (List.mem_singleton.mp member)

theorem free_reports (session : Session α) (op : Op) (name : String) :
    (session.performFree op name).Reports (session.reported (.free name)) := by
  refine reports_with_value fun (array, rest) took => ?_
  rw [reported, seq_of_take_seq took]
  rfl

theorem unleash_reports (session : Session α) (op : Op) (name into : String) :
    (session.performUnleash op name into).Reports (session.reported (.unleash name into)) := by
  refine reports_with_value fun (array, rest) took => ?_
  rw [reported, seq_of_take_seq took]
  rfl

theorem select_reports (session : Session α) (name : String) (index : Nat) :
    (session.performSelect name index).Reports [] := by
  refine reports_with_value fun contents _ => ?_
  cases contents.select? index with
  | some value => rfl
  | none => exact reports_refuse _ _

theorem unwrap_reports (session : Session α) (op : Op) (name : String) :
    (session.performUnwrap op name).Reports [] := by
  refine reports_with_value fun slot _ => ?_
  split
  · exact reports_refuse _ _
  · exact reports_with_value fun _ _ => reports_with_value fun _ _ => rfl

theorem swap_reports (session : Session α) (op : Op) (name : String) (index : Nat)
    (source into : String) : (session.performSwap op name index source into).Reports [] := by
  refine reports_with_value fun (array, rest) _ => reports_with_value fun (slot, rest) _ => ?_
  dsimp only
  rcases array.read_or_outside index with outside | ⟨old, read⟩
  · rw [SlotArray.swap_of_outside outside, SlotArray.swapEvents, if_neg (Nat.not_lt.mpr outside)]
    exact fun event member => Or.inr (List.mem_singleton.mp member)
  · have inside : index < array.length := (List.getElem?_eq_some_iff.mp read).1
    rw [SlotArray.swap_of_read read, SlotArray.swapEvents, if_pos inside]
    rfl

theorem take_reports (session : Session α) (name : String) (index : Nat) :
    (session.performTake name index).Reports [] := by
  refine reports_with_value fun (array, rest) _ => ?_
  dsimp only
  rcases array.read_or_outside index with outside | ⟨old, read⟩
  · rw [SlotArray.take_of_outside outside, SlotArray.swapEvents, if_neg (Nat.not_lt.mpr outside)]
    exact fun event member => Or.inr (List.mem_singleton.mp member)
  · have inside : index < array.length := (List.getElem?_eq_some_iff.mp read).1
    rw [SlotArray.swapEvents, if_pos inside]
    cases old with
    | full value =>
        rw [SlotArray.take_of_full read]
        rfl
    | empty =>
        rw [SlotArray.take_of_empty read]
        exact reports_refuse _ _

theorem put_reports (session : Session α) (name : String) (index : Nat) (value : α) :
    (session.performPut name index value).Reports [] := by
  refine reports_with_value fun (array, rest) _ => ?_
  dsimp only
  cases array.give index value with
  | ok filled => rfl
  | error rejected => exact reports_refuse _ _

theorem release_reports (session : Session α) (op : Op) (name : String) :
    (session.performRelease op name).Reports (session.reported (.freeLseq name)) := by
  refine reports_with_value fun (array, rest) took => ?_
  rw [reported, lseq_of_take_lseq took]
  exact List.append_nil _

theorem checked_free_reports (session : Session α) (op : Op) (name : String) :
    (session.performCheckedFree op name).Reports (session.reported (.freeLseq name)) := by
  refine reports_with_value fun (array, rest) took => ?_
  rw [reported, lseq_of_take_lseq took]
  dsimp only [SlotArray.freeEvents]
  cases array.free with
  | ok _ => exact List.append_nil _
  | error rejected => exact reports_refuse _ _

variable [Allocator]

theorem alloc_reports (session : Session α) (name : String) (count : Nat) :
    (session.performAlloc name count).Reports [.seqAllocated count] := by
  simp only [performAlloc, LinearArray.allocate_constant]
  cases session.config.limits.grant payloadBytes count with
  | error fault => exact reports_refuse fault session
  | ok _ => exact congrArg (fun length => [Event.seqAllocated length]) List.length_replicate

theorem alloc_raw_reports (session : Session α) (name : String) (count : Nat) :
    (session.performAllocRaw name count).Reports [.lseqAllocated count] := by
  simp only [performAllocRaw, SlotArray.allocate_eq]
  cases session.config.limits.grant payloadBytes count with
  | error fault => exact reports_refuse fault session
  | ok _ => exact congrArg (fun length => [Event.lseqAllocated length]) List.length_replicate

theorem perform_reports (session : Session α) (step : Step α) :
    (session.perform step).Reports (session.reported step) := by
  cases step with
  | alloc name count => exact alloc_reports session name count.toNat
  | allocRaw name count => exact alloc_raw_reports session name count.toNat
  | set name index value => exact set_reports session name index.toNat value
  | free name => exact free_reports session .free name
  | unleash name into => exact unleash_reports session .unleash name into
  | select name index => exact select_reports session name index.toNat
  | unwrap name => exact unwrap_reports session .unwrap name
  | swapRaw name index source into =>
      exact swap_reports session .swapRaw name index.toNat source into
  | take name index => exact take_reports session name index.toNat
  | put name index value => exact put_reports session name index.toNat value
  | freeLseq name => exact checked_free_reports session .freeLseq name
  | freeRaw name =>
      change (if session.config.strictFree then _ else _ : Execution α).Reports _
      split
      · exact checked_free_reports session .freeRaw name
      · exact release_reports session .freeRaw name
  | give name value | empty name => rfl
  | length name | discard name | lengthRaw name => exact reports_with_value fun _ _ => rfl
  | get name index | peek name | allocInit name count value | shareRaw name index =>
      exact reports_with_value fun _ _ => reports_with_value fun _ _ => rfl

theorem execute_ok_events {session : Session α} {step : Step α} {answer : Option (Answer α)}
    (succeeded : (session.execute step).outcome = .ok answer) :
    (session.execute step).events = .execute step.op :: session.reported step := by
  have reports := perform_reports session step
  rw [execute] at succeeded ⊢
  cases valid : step.validate session.state with
  | error violation =>
      rw [valid] at succeeded
      cases succeeded
  | ok _ =>
      rw [valid] at succeeded
      have performed : (session.perform step).outcome = .ok answer := succeeded
      rw [Reports, performed] at reports
      exact congrArg (.execute step.op :: ·) reports

theorem execute_error_events {session : Session α} {step : Step α} {fault : Fault}
    (failed : (session.execute step).outcome = .error fault) :
    ∀ event ∈ (session.execute step).events, event = .execute step.op ∨
      event = .seqWriteRejected fault ∨ event = .lseqSwapRejected fault := by
  have reports := perform_reports session step
  rw [execute] at failed ⊢
  cases valid : step.validate session.state with
  | error violation => exact fun _ member => absurd member List.not_mem_nil
  | ok _ =>
      rw [valid] at failed
      have performed : (session.perform step).outcome = .error fault := failed
      rw [Reports, performed] at reports
      exact fun event member => (List.mem_cons.mp member).imp id (reports event)

-- Lets nothing pass but what arrays of a step that succeeds may report.
structure TestsReported (test : Event → Bool) : Prop where
  execute (op : Op) : test (.execute op) = false
  writeRejected (fault : Fault) : test (.seqWriteRejected fault) = false
  swapRejected (fault : Fault) : test (.lseqSwapRejected fault) = false

section Tests

variable {test : Event → Bool} {session : Session α} {step : Step α}

theorem filter_ok_events (tests : TestsReported test) {answer : Option (Answer α)}
    (succeeded : (session.execute step).outcome = .ok answer) :
    (session.execute step).events.filter test = (session.reported step).filter test := by
  rw [execute_ok_events succeeded, List.filter_cons, if_neg]
  rw [tests.execute]
  exact Bool.false_ne_true

theorem filter_error_events (tests : TestsReported test) {fault : Fault}
    (failed : (session.execute step).outcome = .error fault) :
    (session.execute step).events.filter test = [] := by
  refine List.filter_eq_nil_iff.mpr fun event member => ?_
  refine Bool.eq_false_iff.mp ?_
  rcases execute_error_events failed event member with rfl | rfl | rfl
  · exact tests.execute _
  · exact tests.writeRejected fault
  · exact tests.swapRejected fault

theorem filter_event_log (tests : TestsReported test) (session : Session α)
    (steps : List (Step α)) :
    (session.eventLog steps).filter test =
      (session.deeds steps).flatMap fun deed =>
        (deed.before.reported deed.step).filter test := by
  induction session, steps using tried_induction with
  | nil session => rfl
  | failed session step rest fault outcome ih =>
      rw [eventLog, List.filter_append, filter_error_events tests outcome, deeds_error outcome,
        after_error outcome, List.nil_append, ih]
  | succeeded session step rest answer outcome ih =>
      rw [eventLog, List.filter_append, filter_ok_events tests outcome, deeds_ok outcome, after, ih]
      rfl

theorem count_event_log (tests : TestsReported test) {counts : Step α → Bool}
    {session : Session α} {steps : List (Step α)}
    (agree : ∀ deed ∈ session.deeds steps,
      (deed.before.reported deed.step).countP test = (counts deed.step).toNat) :
    (session.eventLog steps).countP test = (session.succeeding steps).countP counts := by
  rw [List.countP_eq_length_filter, filter_event_log tests, succeeding]
  generalize session.deeds steps = deeds at agree ⊢
  induction deeds with
  | nil => rfl
  | cons deed rest ih =>
      obtain ⟨now, later⟩ := List.forall_mem_cons.mp agree
      rw [List.flatMap_cons, List.length_append, ih later, List.map_cons, steps_count_cons,
        ← List.countP_eq_length_filter, now, Nat.add_comm]

end Tests

theorem event_log_split {session : Session α} {steps : List (Step α)} {before rest : List Event}
    {event : Event} (split : session.eventLog steps = before ++ event :: rest) :
    ∃ first step second front back, steps = first ++ step :: second ∧
      before = session.eventLog first ++ front ∧
      ((session.runAll first).execute step).events = front ++ event :: back := by
  induction steps generalizing session before with
  | nil => simp [eventLog] at split
  | cons step later ih =>
      rw [eventLog] at split
      rcases List.append_eq_append_iff.mp split with ⟨middle, reached, told⟩ | ⟨middle, told, cut⟩
      · obtain ⟨first, other, second, front, back, rfl, rfl, reported⟩ := ih told
        refine ⟨step :: first, other, second, front, back, rfl, ?_, reported⟩
        rw [reached, eventLog, List.append_assoc]
      · cases middle with
        | nil =>
            have nothing : (session.after step).eventLog later = [] ++ event :: rest := cut.symm
            obtain ⟨first, other, second, front, back, rfl, none, reported⟩ := ih nothing
            refine ⟨step :: first, other, second, front, back, rfl, ?_, reported⟩
            rw [eventLog, List.append_assoc, ← none, told, List.append_nil, List.append_nil]
        | cons head tail =>
            obtain ⟨rfl, _⟩ := List.cons.inj cut
            exact ⟨[], step, later, before, tail, rfl, rfl, told⟩

theorem deeds_told {session : Session α} {steps : List (Step α)} {deed : Deed α}
    (done : deed ∈ session.deeds steps) :
    (deed.before.execute deed.step).outcome = .ok deed.answer ∧
      (deed.before.execute deed.step).events ⊆ session.eventLog steps := by
  induction session, steps using tried_induction with
  | nil session => exact absurd done List.not_mem_nil
  | failed session step rest fault outcome ih =>
      rw [deeds_error outcome] at done
      obtain ⟨succeeded, told⟩ := ih done
      rw [eventLog, after_error outcome]
      exact ⟨succeeded, List.subset_append_of_subset_right _ told⟩
  | succeeded session step rest answer outcome ih =>
      rw [deeds_ok outcome] at done
      rw [eventLog]
      rcases List.mem_cons.mp done with rfl | later
      · exact ⟨outcome, List.subset_append_left _ _⟩
      · obtain ⟨succeeded, told⟩ := ih later
        exact ⟨succeeded, List.subset_append_of_subset_right _ told⟩

theorem run_from_events {session : Session α} {steps : List (Step α)} {number : Nat} {event : Event}
    (member : event ∈ (session.runFrom number steps).events) :
    event ∈ session.eventLog steps ∨ ∃ step op fault, event = .stepFailed step op fault := by
  induction session, steps using tried_induction generalizing number with
  | nil session => exact absurd member List.not_mem_nil
  | failed session step rest fault outcome ih =>
      rw [run_from_error outcome] at member
      rcases List.mem_append.mp member with executed | failed
      · exact Or.inl (List.mem_append_left _ executed)
      · exact Or.inr ⟨_, _, _, List.mem_singleton.mp failed⟩
  | succeeded session step rest answer outcome ih =>
      rw [run_from_ok outcome] at member
      rcases List.mem_append.mp member with executed | later
      · exact Or.inl (List.mem_append_left _ executed)
      · exact (ih later).imp (List.mem_append_right _) id

end Session

end LinearStore
