import LinearStore.Allocation
import LinearStore.Proofs.Script.Tenure
import LinearStore.Proofs.Session.NameHistory
import LinearStore.Proofs.Session.Weights

set_option autoImplicit false

namespace LinearStore

variable {α : Type}

def Entry.linearCount (entry : Entry α) : Nat := entry.state.isLiveLinear.toNat

theorem linear_count_weighs_linear : WeighsLinear (Entry.linearCount : Entry α → Nat) := by
  intro entry dropped
  rw [Entry.linearCount, dropped]
  rfl

namespace Session

open Script

variable {session : Session α}

def linearCount (session : Session α) : Nat := session.weighed Entry.linearCount

theorem length_live_linear (session : Session α) :
    session.liveLinear.length = session.linearCount :=
  Table.length_names_where (fun entry : Entry α => entry.state.isLiveLinear) session.bindings

theorem linear_count_bind {name : String}
    (hidesNothing : ∀ kind, session.names.find? name = some (.live kind) → kind.isLinear = false)
    (binding : Binding α) :
    (session.bind name binding).linearCount =
      session.linearCount + Entry.linearCount (.live binding) :=
  weighed_bind linear_count_weighs_linear hidesNothing binding

theorem linear_count_consume {name : String} {old : Binding α} (found : session.Holds name old)
    (op : Op) :
    (session.consume name op).linearCount + Entry.linearCount (.live old) = session.linearCount :=
  weighed_consume linear_count_weighs_linear found op

theorem linear_count_rebind {name : String} {old : Binding α} (found : session.Holds name old)
    (new : Binding α) (same : new.kind = old.kind) :
    (session.bind name new).linearCount = session.linearCount := by
  have unmoved := names_rebind found new same
  rw [← length_live_linear, ← length_live_linear, live_linear_eq, live_linear_eq, unmoved]

variable [Allocator]

theorem effect_linear_count {step : Step α} {answer : Option (Answer α)} {next : Session α}
    (valid : step.validate session.names.find? = .ok ())
    (effect : session.Effect step answer next) :
    next.linearCount + step.op.consumes.toNat =
      session.linearCount + step.op.definesLinear.toNat := by
  cases effect with
  | get | length | select | peek | lengthRaw | shareRaw => rfl
  | alloc | allocInit | give | empty | allocRaw =>
      exact linear_count_bind (Step.hides_nothing valid rfl rfl) _
  | set found | take found | put found => exact linear_count_rebind found _ rfl
  | free found | unwrap found | discard found | freeRaw found | freeLseq found =>
      exact linear_count_consume found _
  | unleash found => exact weighed_unleash linear_count_weighs_linear valid found _
  | @swapRaw name index source into array new old found brought read =>
      have change := weighed_swap_raw linear_count_weighs_linear valid found brought
        ⟨array.slots.set index.toNat new⟩ old
      exact congrArg (· + 1) (Nat.add_right_cancel change)

theorem live_linear_of_succeeding (session : Session α) (steps : List (Step α)) :
    (session.runAll steps).linearCount +
        (session.succeeding steps).countP (fun step => step.op.consumes) =
      session.linearCount +
        (session.succeeding steps).countP (fun step => step.op.definesLinear) :=
  succeeding_balance linearCount _ _ effect_linear_count session steps

end Session

open Script in
theorem linear_bindings_consumed_exactly_once [Allocator] (config : Config α)
    (steps : List (Step α)) :
    let session := Session.new config
    let log := session.succeeding steps
    ((session.runAll steps).liveLinear.length + log.countP (fun step => step.op.consumes) =
      log.countP fun step => step.op.definesLinear) ∧
    (∀ before opening between closing rest name kind,
      log = before ++ opening :: (between ++ closing :: rest) →
      opening.defines = some (name, kind) → kind.isLinear = true →
      (∀ step ∈ between, step.definesName name = false) → closing.definesName name = true →
      releaseCount name (between ++ [closing]) = 1) ∧
    ((session.run steps).report.failure = none → Script.leaked ⟨config, steps⟩ = [] →
      ∀ before opening rest name kind, steps = before ++ opening :: rest →
        opening.defines = some (name, kind) → kind.isLinear = true →
        releaseCount name (tenure name rest) = 1) := by
  intro session log
  refine ⟨?_, ?_, ?_⟩
  · have counted := Session.live_linear_of_succeeding session steps
    have fresh : session.linearCount = 0 := rfl
    rwa [fresh, Nat.zero_add, ← Session.length_live_linear] at counted
  · intro before opening between closing rest name kind split defined linear kept redefined
    have disciplined : Disciplined session.names log := Session.succeeding_disciplined session steps
    rw [split] at disciplined
    rw [← tenure_append_cons kept redefined rest]
    rcases one_release_after disciplined defined linear with once | ⟨never, _⟩
    · exact once
    · have unclosed := never closing (List.mem_append_right between List.mem_cons_self)
      rw [redefined] at unclosed
      cases unclosed
  · intro succeeded nothingLeft before opening rest name kind split defined linear
    have disciplined : Disciplined session.names steps :=
      (check_from_eq_ok_iff ..).mp (Session.check_of_run_success succeeded).1
    subst split
    rcases one_release_after disciplined defined linear with once | ⟨_, stillLive⟩
    · exact once
    · have left : name ∈ Script.leaked ⟨config, before ++ opening :: rest⟩ :=
        Table.mem_names_where stillLive linear
      rw [nothingLeft] at left
      exact absurd left List.not_mem_nil

-- A swap that gives out what was stored under the name of what it stored closes one tenure and opens
-- the next. The array it filled can then only be released with its slot.
theorem linear_bindings_consumed_exactly_once_by_swap :
    let config : Config Nat := ⟨0, {}, false⟩
    let opening : Step Nat := .give "m" 5
    let between : List (Step Nat) := [.allocRaw "l" 1]
    let closing : Step Nat := .swapRaw "l" 0 "m" "m"
    let tried := [opening, .unwrap "n"] ++ between ++ [closing, .freeLseq "l"]
    let finished := [opening] ++ between ++ [closing, .discard "m", .freeRaw "l"]
    ((Session.new config).succeeding tried = [] ++ opening :: (between ++ closing :: []) ∧
      closing.definesName "m" = true ∧ Script.releaseCount "m" (between ++ [closing]) = 1) ∧
    (((Session.new config).run finished).report.failure = none ∧
      Script.leaked ⟨config, finished⟩ = [] ∧
      Script.releaseCount "l" (Script.tenure "l" [closing, .discard "m", .freeRaw "l"]) = 1) := by
  intro config opening between closing tried finished
  have logged : (Session.new config).succeeding tried =
      [] ++ opening :: (between ++ closing :: []) := by
    decide +kernel
  have ran : ((Session.new config).run finished).report.failure = none := by
    decide +kernel
  have nothingLeft : Script.leaked ⟨config, finished⟩ = [] := by
    decide +kernel
  refine ⟨⟨logged, rfl, ?_⟩, ran, nothingLeft, ?_⟩
  · obtain ⟨_, reopened, _⟩ := linear_bindings_consumed_exactly_once config tried
    exact reopened [] opening between closing [] "m" .maybe logged rfl rfl (by decide) rfl
  · obtain ⟨_, _, finishing⟩ := linear_bindings_consumed_exactly_once config finished
    exact finishing ran nothingLeft [opening] (.allocRaw "l" 1)
      [closing, .discard "m", .freeRaw "l"] "l" .lseq rfl rfl rfl

end LinearStore
