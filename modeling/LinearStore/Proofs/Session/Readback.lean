import LinearStore.Allocation
import LinearStore.Proofs.Session.Determinism
import LinearStore.Proofs.Session.Frame
import LinearStore.Proofs.Session.History
import Mathlib.Data.List.Basic

set_option autoImplicit false

namespace LinearStore

variable {α : Type}

namespace Session

-- The deed that introduced what stands under a name, and the deeds since then.
structure Introduced (log : List (Deed α)) (name : String) (opening : Deed α)
    (since : List (Deed α)) : Prop where
  split : ∃ before, log = before ++ opening :: since
  defines : opening.step.definesName name = true
  untouched : ∀ deed ∈ since, deed.step.touches name = false

def Allocated (config : Config α) (log : List (Deed α)) (name : String) (length : UInt64)
    (fill : α) (since : List (Deed α)) : Prop :=
  ∃ opening, Introduced log name opening since ∧
    opening.step.allocates config.defaultValue = some (name, length, fill)

def Unleashed (log : List (Deed α)) (name : String) (values : List α) : Prop :=
  ∃ opening since source, Introduced log name opening since ∧
    opening.step = .unleash source name ∧ opening.answer = some (.elements values)

section Introduction

variable {config : Config α} {log since : List (Deed α)} {name : String} {opening deed : Deed α}

theorem introduced_last (log : List (Deed α)) {kind : Kind}
    (defined : deed.step.defines = some (name, kind)) : Introduced (log ++ [deed]) name deed [] :=
  ⟨⟨log, rfl⟩, Step.defines_name_of_defines defined,
    fun _ member => absurd member List.not_mem_nil⟩

variable (untouched : deed.step.touches name = false)

include untouched

theorem Introduced.append (introduced : Introduced log name opening since) :
    Introduced (log ++ [deed]) name opening (since ++ [deed]) := by
  obtain ⟨⟨before, split⟩, defines, idle⟩ := introduced
  refine ⟨⟨before, ?_⟩, defines, fun later member => ?_⟩
  · rw [split, List.append_assoc, List.cons_append]
  · rcases List.mem_append.mp member with earlier | last
    · exact idle later earlier
    · exact List.mem_singleton.mp last ▸ untouched

theorem Allocated.append {length : UInt64} {fill : α}
    (allocated : Allocated config log name length fill since) :
    Allocated config (log ++ [deed]) name length fill (since ++ [deed]) := by
  obtain ⟨opening, introduced, allocates⟩ := allocated
  exact ⟨opening, introduced.append untouched, allocates⟩

theorem Unleashed.append {values : List α} (unleashed : Unleashed log name values) :
    Unleashed (log ++ [deed]) name values := by
  obtain ⟨opening, since, source, introduced, given⟩ := unleashed
  exact ⟨opening, _, source, introduced.append untouched, given⟩

end Introduction

-- The log accounts for every element that can be read.
structure Recorded (config : Config α) (log : List (Deed α)) (session : Session α) : Prop where
  configured : session.config = config
  arrays : ∀ name array, session.Holds name (.seq array) →
    ∃ length fill since, Allocated config log name length fill since ∧
      array.elements = Script.written (since.map Deed.step) name length fill
  sequences : ∀ name contents, session.Holds name (.sequence contents) →
    Unleashed log name contents.elements

theorem recorded_new (config : Config α) : Recorded config [] (new config) := by
  refine ⟨rfl, fun name array held => ?_, fun name contents held => ?_⟩ <;> cases held

variable [Allocator] {session next : Session α} {step : Step α} {answer : Option (Answer α)}
  {name : String}

theorem effect_allocates {array : LinearArray α} (effect : session.Effect step answer next)
    (defined : step.defines = some (name, .seq)) (held : next.Holds name (.seq array)) :
    ∃ length fill, step.allocates session.config.defaultValue = some (name, length, fill) ∧
      array.elements = List.replicate length.toNat fill := by
  cases effect with
  | alloc | allocInit =>
      cases defined
      cases holds_unique held (holds_bind ..)
      exact ⟨_, _, rfl, rfl⟩
  | _ => cases defined

theorem effect_freezes {contents : Sequence α} (effect : session.Effect step answer next)
    (defined : step.defines = some (name, .sequence)) (held : next.Holds name (.sequence contents)) :
    ∃ source, step = .unleash source name ∧ answer = some (.elements contents.elements) := by
  cases effect with
  | unleash =>
      cases defined
      cases holds_unique held (holds_bind ..)
      exact ⟨_, rfl, rfl⟩
  | _ => cases defined

namespace Recorded

variable {config : Config α} {log : List (Deed α)} (recorded : Recorded config log session)

include recorded

theorem effect_array (effect : session.Effect step answer next) {array : LinearArray α}
    (held : next.Holds name (.seq array)) :
    ∃ length fill since,
      Allocated config (log ++ [⟨session, step, answer⟩]) name length fill since ∧
        array.elements = Script.written (since.map Deed.step) name length fill := by
  rcases effect_defined_or_untouched effect held with defined | untouched
  · obtain ⟨length, fill, allocates, filled⟩ := effect_allocates effect defined held
    rw [recorded.configured] at allocates
    refine ⟨length, fill, [], ⟨_, introduced_last log defined, allocates⟩, ?_⟩
    rw [filled, List.map_nil, Script.written_nil]
  · by_cases stored : step.stores = some name
    · rcases effect_stored effect untouched stored with
        ⟨index, value, old, rfl, found, written⟩ | ⟨_, _, _, _, _, written⟩
      · cases holds_unique held written
        obtain ⟨length, fill, since, allocated, elements⟩ := recorded.arrays name old found
        refine ⟨length, fill, _, allocated.append untouched, ?_⟩
        rw [elements, List.map_append]
        exact (Script.written_append_set ..).symm
      · cases holds_unique held written
    · have found := (effect_find_of_untouched effect untouched stored).symm.trans held
      obtain ⟨length, fill, since, allocated, elements⟩ := recorded.arrays name array found
      refine ⟨length, fill, _, allocated.append untouched, ?_⟩
      rw [elements, List.map_append]
      exact (Script.written_append_of_not_stored stored ..).symm

theorem effect_sequence (effect : session.Effect step answer next) {contents : Sequence α}
    (held : next.Holds name (.sequence contents)) :
    Unleashed (log ++ [⟨session, step, answer⟩]) name contents.elements := by
  rcases effect_defined_or_untouched effect held with defined | untouched
  · obtain ⟨source, unleashes, given⟩ := effect_freezes effect defined held
    exact ⟨_, [], source, introduced_last log defined, unleashes, given⟩
  · have unstored : step.stores ≠ some name := by
      intro stored
      rcases effect_stored effect untouched stored with
        ⟨_, _, _, _, _, written⟩ | ⟨_, _, _, _, _, written⟩ <;> cases holds_unique held written
    have found := (effect_find_of_untouched effect untouched unstored).symm.trans held
    exact (recorded.sequences name contents found).append untouched

theorem effect (effect : session.Effect step answer next) :
    Recorded config (log ++ [⟨session, step, answer⟩]) next :=
  ⟨(effect_config effect).trans recorded.configured,
    fun _ _ held => recorded.effect_array effect held,
    fun _ _ held => recorded.effect_sequence effect held⟩

theorem get {index : UInt64} (effect : session.Effect (.get name index) answer next) :
    ∃ length fill since, Allocated config log name length fill since ∧
      index.toNat < length.toNat ∧
      answer = some (.element (Script.lastWrite (since.map Deed.step) name index.toNat fill)) := by
  cases effect with
  | @get _ _ array value found read =>
      obtain ⟨length, fill, since, allocated, elements⟩ := recorded.arrays name array found
      rw [elements, Script.getElem?_written] at read
      obtain ⟨inside, same⟩ := Option.ite_some_none_eq_some.mp read
      exact ⟨length, fill, since, allocated, inside, same ▸ rfl⟩

theorem unleash {into : String} (effect : session.Effect (.unleash name into) answer next) :
    ∃ length fill since, Allocated config log name length fill since ∧
      answer = some (.elements (Script.written (since.map Deed.step) name length fill)) := by
  cases effect with
  | @unleash _ _ array found =>
      obtain ⟨length, fill, since, allocated, elements⟩ := recorded.arrays name array found
      exact ⟨length, fill, since, allocated, elements ▸ rfl⟩

theorem select {index : UInt64} (effect : session.Effect (.select name index) answer next) :
    ∃ values value, Unleashed log name values ∧ values[index.toNat]? = some value ∧
      answer = some (.element value) := by
  cases effect with
  | @select _ _ contents value found read =>
      exact ⟨contents.elements, value, recorded.sequences name contents found, read, rfl⟩

end Recorded

theorem run_all_recorded (config : Config α) (steps : List (Step α)) :
    Recorded config ((new config).deeds steps) ((new config).runAll steps) :=
  deeds_keep (Recorded config) (fun recorded _ => recorded.effect) [] (recorded_new config) steps

end Session

open Session in
theorem reads_see_last_writes [Allocator] (config : Config α) (steps : List (Step α)) :
    let session := (Session.new config).runAll steps
    let log := (Session.new config).deeds steps
    (∀ name index answer, (session.execute (.get name index)).outcome = .ok answer →
      ∃ length fill since, Allocated config log name length fill since ∧
        index.toNat < length.toNat ∧
        answer = some (.element
          (Script.lastWrite (since.map Deed.step) name index.toNat fill))) ∧
    (∀ name into answer, (session.execute (.unleash name into)).outcome = .ok answer →
      ∃ length fill since, Allocated config log name length fill since ∧
        answer = some (.elements ((List.range length.toNat).map fun index =>
          Script.lastWrite (since.map Deed.step) name index fill))) ∧
    ∀ name index answer, (session.execute (.select name index)).outcome = .ok answer →
      ∃ values value, Unleashed log name values ∧ values[index.toNat]? = some value ∧
        answer = some (.element value) := by
  intro session log
  have recorded : Recorded config log session := run_all_recorded config steps
  refine ⟨fun name index answer succeeded => ?_, fun name into answer succeeded => ?_,
    fun name index answer succeeded => ?_⟩
  · exact recorded.get (execute_ok succeeded).2
  · exact recorded.unleash (execute_ok succeeded).2
  · exact recorded.select (execute_ok succeeded).2

-- The array that was frozen leaves its name to a new one, whose writes do not show in the sequence; the
-- write that fails does not show at all.
open Session in
theorem reads_see_last_writes_after_reuse :
    let config : Config Nat := ⟨7, ⟨2⟩, false⟩
    let steps : List (Step Nat) :=
      [.alloc "s" 2, .set "s" 1 8, .unleash "s" "t", .allocInit "s" 2 5, .set "s" 0 6, .set "s" 2 9]
    let session := (Session.new config).runAll steps
    let log := (Session.new config).deeds steps
    ((session.execute (.get "s" 0)).outcome = .ok (some (.element 6)) ∧
      ∃ length fill since, Allocated config log "s" length fill since ∧
        Script.lastWrite (since.map Deed.step) "s" 0 fill = 6) ∧
    ((session.execute (.unleash "s" "t")).outcome = .ok (some (.elements [6, 5])) ∧
      ∃ length fill since, Allocated config log "s" length fill since ∧
        (List.range length.toNat).map (fun index =>
          Script.lastWrite (since.map Deed.step) "s" index fill) = [6, 5]) ∧
    ((session.execute (.select "t" 1)).outcome = .ok (some (.element 8)) ∧
      ∃ values, Unleashed log "t" values ∧ values[1]? = some 8) := by
  intro config steps session log
  have got : (session.execute (.get "s" 0)).outcome = .ok (some (.element 6)) := by
    decide +kernel
  have unleashed : (session.execute (.unleash "s" "t")).outcome =
      .ok (some (.elements [6, 5])) := by
    decide +kernel
  have selected : (session.execute (.select "t" 1)).outcome = .ok (some (.element 8)) := by
    decide +kernel
  obtain ⟨reads, freezes, selects⟩ := reads_see_last_writes config steps
  refine ⟨⟨got, ?_⟩, ⟨unleashed, ?_⟩, selected, ?_⟩
  · obtain ⟨length, fill, since, allocated, _, same⟩ := reads "s" 0 _ got
    exact ⟨length, fill, since, allocated, (Answer.element.inj (Option.some.inj same)).symm⟩
  · obtain ⟨length, fill, since, allocated, same⟩ := freezes "s" "t" _ unleashed
    exact ⟨length, fill, since, allocated, (Answer.elements.inj (Option.some.inj same)).symm⟩
  · obtain ⟨values, value, stands, read, same⟩ := selects "t" 1 _ selected
    cases same
    exact ⟨values, stands, read⟩

end LinearStore
