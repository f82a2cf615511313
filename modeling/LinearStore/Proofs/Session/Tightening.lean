import LinearStore.Allocation
import LinearStore.Proofs.Allocation
import LinearStore.Proofs.Session.Determinism
import LinearStore.Proofs.Session.History
import LinearStore.Session.Snapshot

set_option autoImplicit false

namespace LinearStore

variable {α : Type}

structure Config.Tightens (tight loose : Config α) : Prop where
  defaultValue : tight.defaultValue = loose.defaultValue
  limits : tight.limits.maxSlots ≤ loose.limits.maxSlots
  strictFree : loose.strictFree = true → tight.strictFree = true

-- A refusal that a looser configuration might not make.
def RefusedByConfig (op : Op) (fault : Fault) : Prop :=
  (∃ requested limit, fault = .allocation requested (.overLimit limit)) ∨
    (op = .freeRaw ∧ ∃ occupied, fault = .contractViolation (.freeWithOccupiedSlots occupied))

namespace Limits

variable [Allocator] {tight loose : Limits} {length : Nat}

theorem grant_of_tighter (slotBytes : Nat) (tighter : tight.maxSlots ≤ loose.maxSlots) :
    (∃ limit, tight.grant slotBytes length = .error (.allocation length (.overLimit limit))) ∨
      tight.grant slotBytes length = loose.grant slotBytes length := by
  rcases tight.check_cases length with ⟨within, bounded⟩ | ⟨exceeded, _⟩
  · rcases loose.check_cases length with ⟨within', _⟩ | ⟨_, beyond⟩
    · rw [grant_of_within slotBytes within, grant_of_within slotBytes within']
      exact Or.inr rfl
    · exact absurd (Nat.le_trans bounded (UInt64.le_iff_toNat_le.mp tighter)) (Nat.not_le.mpr beyond)
  · exact Or.inl ⟨_, grant_of_exceeded slotBytes exceeded⟩

end Limits

namespace Session

structure Tightens (tight loose : Session α) : Prop where
  config : tight.config.Tightens loose.config
  bindings : tight.bindings = loose.bindings

namespace Tightens

variable {tight loose : Session α} (tightens : tight.Tightens loose)

include tightens

theorem bind (name : String) (binding : Binding α) :
    (tight.bind name binding).Tightens (loose.bind name binding) :=
  ⟨tightens.config, congrArg (fun table => table.insert name (.live binding)) tightens.bindings⟩

theorem consume (name : String) (op : Op) :
    (tight.consume name op).Tightens (loose.consume name op) :=
  ⟨tightens.config, congrArg (fun table => table.insert name (.consumed op)) tightens.bindings⟩

theorem holds {name : String} {binding : Binding α} (found : tight.Holds name binding) :
    loose.Holds name binding := by
  rw [Holds, ← tightens.bindings]
  exact found

theorem state_eq : tight.state = loose.state := by
  funext name
  rw [state, state, tightens.bindings]

variable [Allocator] {step : Step α}

theorem granted {length : Nat} (granted : tight.config.limits.grant payloadBytes length = .ok ()) :
    loose.config.limits.grant payloadBytes length = .ok () := by
  rcases Limits.grant_of_tighter payloadBytes tightens.config.limits with ⟨_, denied⟩ | same
  · cases granted.symm.trans denied
  · exact same.symm.trans granted

theorem effect {answer : Option (Answer α)} {next : Session α}
    (effect : tight.Effect step answer next) :
    ∃ next', loose.Effect step answer next' ∧ next.Tightens next' := by
  cases effect with
  | alloc granted =>
      rw [tightens.config.defaultValue]
      exact ⟨_, .alloc (tightens.granted granted), tightens.bind ..⟩
  | allocInit granted => exact ⟨_, .allocInit (tightens.granted granted), tightens.bind ..⟩
  | allocRaw granted => exact ⟨_, .allocRaw (tightens.granted granted), tightens.bind ..⟩
  | get found read => exact ⟨_, .get (tightens.holds found) read, tightens⟩
  | set found read => exact ⟨_, .set (tightens.holds found) read, tightens.bind ..⟩
  | length found => exact ⟨_, .length (tightens.holds found), tightens⟩
  | free found => exact ⟨_, .free (tightens.holds found), tightens.consume ..⟩
  | unleash found =>
      exact ⟨_, .unleash (tightens.holds found), (tightens.consume ..).bind ..⟩
  | select found read => exact ⟨_, .select (tightens.holds found) read, tightens⟩
  | give => exact ⟨_, .give, tightens.bind ..⟩
  | empty => exact ⟨_, .empty, tightens.bind ..⟩
  | peek found => exact ⟨_, .peek (tightens.holds found), tightens⟩
  | unwrap found => exact ⟨_, .unwrap (tightens.holds found), tightens.consume ..⟩
  | discard found => exact ⟨_, .discard (tightens.holds found), tightens.consume ..⟩
  | lengthRaw found => exact ⟨_, .lengthRaw (tightens.holds found), tightens⟩
  | swapRaw found brought read =>
      exact ⟨_, .swapRaw (tightens.holds found) (tightens.holds brought) read,
        ((tightens.bind ..).consume ..).bind ..⟩
  | shareRaw found read => exact ⟨_, .shareRaw (tightens.holds found) read, tightens⟩
  | take found read => exact ⟨_, .take (tightens.holds found) read, tightens.bind ..⟩
  | put found read => exact ⟨_, .put (tightens.holds found) read, tightens.bind ..⟩
  | freeRaw found vacant =>
      have vacant' := fun strict => vacant (tightens.config.strictFree strict)
      exact ⟨_, .freeRaw (tightens.holds found) vacant', tightens.consume ..⟩
  | freeLseq found vacant =>
      exact ⟨_, .freeLseq (tightens.holds found) vacant, tightens.consume ..⟩

theorem refuses {fault : Fault} (refused : tight.Refuses step fault) :
    RefusedByConfig step.op fault ∨ loose.Refuses step fault := by
  cases refused with
  | denied requested denied =>
      rcases Limits.grant_of_tighter payloadBytes tightens.config.limits with ⟨limit, exceeded⟩ | same
      · exact Or.inl (Or.inl ⟨_, limit, Except.error.inj (denied.symm.trans exceeded)⟩)
      · exact Or.inr (.denied requested (same.symm.trans denied))
  | outside addressed found measured outside =>
      exact Or.inr (.outside addressed (tightens.holds found) measured outside)
  | peek found => exact Or.inr (.peek (tightens.holds found))
  | unwrap found => exact Or.inr (.unwrap (tightens.holds found))
  | take found read => exact Or.inr (.take (tightens.holds found) read)
  | put found read => exact Or.inr (.put (tightens.holds found) read)
  | freeRaw => exact Or.inl (Or.inr ⟨rfl, _, rfl⟩)
  | freeLseq found occupied => exact Or.inr (.freeLseq (tightens.holds found) occupied)

theorem execute_ok {answer : Option (Answer α)}
    (succeeded : (tight.execute step).outcome = .ok answer) :
    (loose.execute step).outcome = .ok answer ∧
      (tight.execute step).session.Tightens (loose.execute step).session := by
  obtain ⟨valid, effect⟩ := Session.execute_ok succeeded
  rw [tightens.state_eq] at valid
  obtain ⟨next, effect', still⟩ := tightens.effect effect
  obtain ⟨outcome, rfl⟩ := execute_of_effect valid effect'
  exact ⟨outcome, still⟩

theorem execute_error {fault : Fault} (failed : (tight.execute step).outcome = .error fault) :
    RefusedByConfig step.op fault ∨
      ((loose.execute step).outcome = .error fault ∧
        (tight.execute step).session.Tightens (loose.execute step).session) := by
  obtain ⟨unchanged, reason⟩ := Session.execute_error failed
  rw [tightens.state_eq] at reason
  have unmoved : (loose.execute step).outcome = .error fault →
      (tight.execute step).session.Tightens (loose.execute step).session := by
    intro failed'
    rw [unchanged, (Session.execute_error failed').1]
    exact tightens
  rcases reason with ⟨violation, invalid, rfl⟩ | ⟨valid, refused⟩
  · have failed' := congrArg Execution.outcome (execute_of_violation invalid)
    exact Or.inr ⟨failed', unmoved failed'⟩
  · rcases tightens.refuses refused with byConfig | refused'
    · exact Or.inl byConfig
    · have failed' := execute_of_refuses valid refused'
      exact Or.inr ⟨failed', unmoved failed'⟩

end Tightens

variable [Allocator]

-- Induction on the steps, with the two sessions kept equal but for their configurations.
theorem run_from_of_tightens {tight loose : Session α} (tightens : tight.Tightens loose)
    (number : Nat) (steps : List (Step α)) :
    ((tight.runFrom number steps).report.outcomes <+:
        (loose.runFrom number steps).report.outcomes ∧
      ∃ failure, (tight.runFrom number steps).report.failure = some failure ∧
        RefusedByConfig failure.op failure.fault) ∨
    ((tight.runFrom number steps).report = (loose.runFrom number steps).report ∧
      (tight.runFrom number steps).session.Tightens (loose.runFrom number steps).session) := by
  induction steps generalizing number tight loose with
  | nil => exact Or.inr ⟨rfl, tightens⟩
  | cons step rest ih =>
      cases outcome : (tight.execute step).outcome with
      | error fault =>
          rw [run_from_error outcome]
          rcases tightens.execute_error outcome with byConfig | ⟨outcome', still⟩
          · exact Or.inl ⟨List.nil_prefix, _, rfl, byConfig⟩
          · rw [run_from_error outcome']
            exact Or.inr ⟨rfl, still⟩
      | ok answer =>
          obtain ⟨outcome', still⟩ := tightens.execute_ok outcome
          rw [run_from_ok outcome, run_from_ok outcome']
          rcases ih still (number + 1) with ⟨prefixed, failure, failed, byConfig⟩ | ⟨same, ended⟩
          · exact Or.inl ⟨(List.prefix_cons_inj _).mpr prefixed, failure, failed, byConfig⟩
          · refine Or.inr ⟨?_, ended⟩
            simp only [Run.after, same]

end Session

theorem tightening_only_refuses [Allocator] {tight loose : Config Json}
    (tightens : tight.Tightens loose) (steps : List (Step Json)) :
    let first := (Session.new tight).run steps
    let second := (Session.new loose).run steps
    first.report.outcomes <+: second.report.outcomes ∧
    (first.report.failure = none → first.report = second.report ∧
      first.session.bindings = second.session.bindings ∧
      first.session.snapshot = second.session.snapshot) ∧
    ∀ failure, first.report.failure = some failure →
      ¬ RefusedByConfig failure.op failure.fault →
      second.report.failure = some failure ∧ first.report = second.report := by
  intro first second
  have start : (Session.new tight).Tightens (Session.new loose) := ⟨tightens, rfl⟩
  rcases Session.run_from_of_tightens start 0 steps with
    ⟨prefixed, failure, failed, byConfig⟩ | ⟨reports, ended⟩
  · refine ⟨prefixed, fun succeeded => ?_, fun failure' failed' genuine => ?_⟩
    · cases succeeded.symm.trans failed
    · cases failed'.symm.trans failed
      exact absurd byConfig genuine
  · have same : first.report = second.report := reports
    have bindings : first.session.bindings = second.session.bindings := ended.bindings
    refine ⟨?_, fun _ => ⟨same, bindings, ?_⟩, fun failure failed _ => ⟨?_, same⟩⟩
    · exact congrArg Report.outcomes same ▸ List.prefix_rfl
    · rw [Session.snapshot, Session.snapshot, bindings]
    · rw [← same]
      exact failed

-- Only the looser session releases an array that still holds a value, and neither takes from an empty
-- slot.
theorem tightening_only_refuses_on_slots :
    let tight : Config Json := ⟨.null, ⟨2⟩, true⟩
    let loose : Config Json := ⟨.null, ⟨9⟩, false⟩
    let run := fun (config : Config Json) steps => (Session.new config).run steps
    let start : List (Step Json) := [.allocRaw "l" 2, .put "l" 1 .null]
    let occupied : StepFailure :=
      ⟨2, .freeRaw, .contractViolation (.freeWithOccupiedSlots 1)⟩
    let vacant : StepFailure := ⟨2, .take, .contractViolation (.slotEmpty 0)⟩
    tight.Tightens loose ∧
    ((run tight (start ++ [.freeRaw "l"])).report.failure = some occupied ∧
      (run tight (start ++ [.freeRaw "l"])).report.outcomes <+:
        (run loose (start ++ [.freeRaw "l"])).report.outcomes) ∧
    ((run tight start).report.failure = none ∧
      (run tight start).session.snapshot = (run loose start).session.snapshot) ∧
    ((run tight (start ++ [.take "l" 0])).report.failure = some vacant ∧
      ¬ RefusedByConfig vacant.op vacant.fault ∧
      (run loose (start ++ [.take "l" 0])).report.failure = some vacant) := by
  intro tight loose run start occupied vacant
  have tightens : tight.Tightens loose := ⟨rfl, by decide, fun _ => rfl⟩
  have genuine : ¬ RefusedByConfig vacant.op vacant.fault := by
    rintro (⟨_, _, exceeded⟩ | ⟨freed, _⟩)
    · cases exceeded
    · cases freed
  refine ⟨tightens, ⟨rfl, ?_⟩, ⟨rfl, ?_⟩, rfl, genuine, ?_⟩
  · exact (tightening_only_refuses tightens (start ++ [.freeRaw "l"])).1
  · exact ((tightening_only_refuses tightens start).2.1 rfl).2.2
  · exact ((tightening_only_refuses tightens (start ++ [.take "l" 0])).2.2 vacant rfl genuine).1

end LinearStore
