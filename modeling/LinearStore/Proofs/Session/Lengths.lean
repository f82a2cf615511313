import LinearStore.Allocation
import LinearStore.Proofs.Allocation
import LinearStore.Proofs.Session.Frame
import LinearStore.Proofs.Session.History

set_option autoImplicit false

namespace LinearStore

variable {α : Type}

namespace Session

-- The length of what is live under a name. A slot of its own has none.
def lengthOf (session : Session α) (name : String) : Option Nat :=
  match session.bindings.find? name with
  | some (.live binding) => binding.length?
  | _ => none

def Within (limit : Nat) (session : Session α) : Prop :=
  ∀ name length, session.lengthOf name = some length → length ≤ limit

variable {session : Session α} {name : String}

theorem length_of_holds {binding : Binding α} (found : session.Holds name binding) :
    session.lengthOf name = binding.length? := by
  rw [lengthOf, found]

theorem length_of_bind (session : Session α) (name : String) (binding : Binding α)
    (other : String) :
    (session.bind name binding).lengthOf other =
      if other = name then binding.length? else session.lengthOf other := by
  by_cases here : other = name <;> simp [lengthOf, bind, Table.find_insert, here]

theorem length_of_consume (session : Session α) (name : String) (op : Op) (other : String) :
    (session.consume name op).lengthOf other =
      if other = name then none else session.lengthOf other := by
  by_cases here : other = name <;> simp [lengthOf, consume, Table.find_insert, here]

theorem length_of_rebind {old : Binding α} (found : session.Holds name old) {new : Binding α}
    (same : new.length? = old.length?) :
    (session.bind name new).lengthOf = session.lengthOf := by
  funext other
  rw [length_of_bind]
  by_cases here : other = name
  · rw [if_pos here, here, length_of_holds found, same]
  · rw [if_neg here]

theorem length_stored (array : LinearArray α) (index : Nat) (value : α) :
    (Binding.seq ⟨array.elements.set index value⟩).length? = (Binding.seq array).length? :=
  congrArg some List.length_set

theorem length_stored_slot (array : SlotArray α) (index : Nat) (slot : Slot α) :
    (Binding.lseq ⟨array.slots.set index slot⟩).length? = (Binding.lseq array).length? :=
  congrArg some List.length_set

namespace Within

variable {limit : Nat} (within : session.Within limit)

include within

theorem bind (name : String) {binding : Binding α}
    (fits : ∀ length, binding.length? = some length → length ≤ limit) :
    (session.bind name binding).Within limit := by
  intro other length measured
  rw [length_of_bind] at measured
  split at measured
  · exact fits length measured
  · exact within other length measured

theorem consume (name : String) (op : Op) : (session.consume name op).Within limit := by
  intro other length measured
  rw [length_of_consume] at measured
  split at measured
  · cases measured
  · exact within other length measured

theorem rebind {old : Binding α} (found : session.Holds name old) {new : Binding α}
    (same : new.length? = old.length?) : (session.bind name new).Within limit := by
  intro other length measured
  rw [length_of_rebind found same] at measured
  exact within other length measured

theorem effect [Allocator] {step : Step α} {answer : Option (Answer α)} {next : Session α}
    (limited : session.config.limits.maxSlots.toNat = limit)
    (effect : session.Effect step answer next) : next.Within limit := by
  subst limited
  cases effect with
  | get | length | select | peek | lengthRaw | shareRaw => exact within
  | alloc granted | allocInit granted | allocRaw granted =>
      refine within.bind _ fun length measured => ?_
      cases measured
      exact Nat.le_trans (Nat.le_of_eq List.length_replicate) (Limits.le_of_grant granted)
  | give | empty =>
      refine within.bind _ fun length measured => ?_
      cases measured
  | set found => exact within.rebind found (length_stored ..)
  | take found | put found => exact within.rebind found (length_stored_slot ..)
  | free | unwrap | discard | freeRaw | freeLseq => exact within.consume _ _
  | unleash found =>
      refine (within.consume _ _).bind _ fun length measured => ?_
      exact within _ length ((length_of_holds found).trans measured)
  | @swapRaw name index source into array new old found brought read =>
      have stored := within.rebind found (length_stored_slot array index.toNat new)
      refine (stored.consume _ _).bind _ fun length measured => ?_
      cases measured

end Within

variable [Allocator] {step : Step α}

theorem effect_length_of_untouched {answer : Option (Answer α)} {next : Session α}
    (effect : session.Effect step answer next) (untouched : step.touches name = false) :
    next.lengthOf name = session.lengthOf name := by
  by_cases stored : step.stores = some name
  · rcases effect_stored effect untouched stored with
      ⟨_, _, _, _, found, written⟩ | ⟨_, _, _, _, found, written⟩
    · rw [length_of_holds written, length_of_holds found, length_stored]
    · rw [length_of_holds written, length_of_holds found, length_stored_slot]
  · rw [lengthOf, effect_find_of_untouched effect untouched stored, lengthOf]

theorem effect_introduces {answer : Option (Answer α)} {next : Session α} {kind : Kind}
    {length : UInt64} (effect : session.Effect step answer next)
    (defined : step.defines = some (name, kind)) (requested : step.requests = some length) :
    next.lengthOf name = some length.toNat ∧ kind.isLinear = true := by
  cases effect with
  | alloc | allocInit | allocRaw =>
      cases defined
      cases requested
      rw [length_of_bind, if_pos rfl]
      exact ⟨congrArg some List.length_replicate, rfl⟩
  | _ => cases requested

theorem effect_unleashes {source into : String} {answer : Option (Answer α)} {next : Session α}
    (effect : session.Effect (.unleash source into) answer next) :
    ∃ length, session.lengthOf source = some length ∧ next.lengthOf into = some length := by
  cases effect with
  | @unleash source into array found =>
      refine ⟨array.length, length_of_holds found, ?_⟩
      rw [length_of_bind, if_pos rfl]
      rfl

-- Induction on the steps: as long as none consumes the name, none can define it anew either.
theorem run_all_length_of {kind : Kind} {steps : List (Step α)}
    (live : session.state name = some (.live kind)) (linear : kind.isLinear = true)
    (kept : ∀ step ∈ session.succeeding steps, step.releases name = false) :
    (session.runAll steps).state name = some (.live kind) ∧
      (session.runAll steps).lengthOf name = session.lengthOf name := by
  induction session, steps using tried_induction with
  | nil session => exact ⟨live, rfl⟩
  | failed session step rest fault outcome ih =>
      rw [succeeding_error outcome] at kept
      rw [run_all_error outcome]
      exact ih live kept
  | succeeded session step rest answer outcome ih =>
      rw [succeeding_ok outcome] at kept
      obtain ⟨here, later⟩ := List.forall_mem_cons.mp kept
      obtain ⟨valid, effect⟩ := execute_ok outcome
      have untouched := Step.untouched_of_linear valid live linear here
      have stillLive := (effect_state_of_untouched effect untouched).trans live
      obtain ⟨ended, measured⟩ := ih stillLive later
      exact ⟨ended, measured.trans (effect_length_of_untouched effect untouched)⟩

theorem run_all_config (session : Session α) (steps : List (Step α)) :
    (session.runAll steps).config = session.config :=
  run_all_keeps (fun reached => reached.config = session.config)
    (fun same _ effect => (effect_config effect).trans same) rfl steps

theorem run_all_within (config : Config α) (steps : List (Step α)) :
    ((new config).runAll steps).Within config.limits.maxSlots.toNat := by
  let kept : Session α → Prop := fun reached =>
    reached.config = config ∧ reached.Within config.limits.maxSlots.toNat
  have keeps : ∀ {session next : Session α} {step : Step α} {answer : Option (Answer α)},
      kept session → step.validate session.state = .ok () → session.Effect step answer next →
        kept next := by
    rintro session next step answer ⟨same, within⟩ _ effect
    exact ⟨(effect_config effect).trans same, within.effect (same ▸ rfl) effect⟩
  have start : kept (new config) := by
    refine ⟨rfl, fun name length measured => ?_⟩
    cases measured
  exact (run_all_keeps kept keeps start steps).2

end Session

theorem lengths_are_granted_and_fixed [Allocator] (config : Config α) (steps : List (Step α)) :
    let session := (Session.new config).runAll steps
    session.config = config ∧
    (∀ name length, session.lengthOf name = some length → length ≤ config.limits.maxSlots.toNat) ∧
    (∀ step answer name kind length, (session.execute step).outcome = .ok answer →
      step.defines = some (name, kind) → step.requests = some length →
      ∀ more, (∀ later ∈ (session.after step).succeeding more, later.releases name = false) →
        ((session.after step).runAll more).state name = some (.live kind) ∧
          ((session.after step).runAll more).lengthOf name = some length.toNat) ∧
    ∀ name into answer, (session.execute (.unleash name into)).outcome = .ok answer →
      ∃ length, session.lengthOf name = some length ∧
        (session.after (.unleash name into)).state into = some (.live .sequence) ∧
        (session.after (.unleash name into)).lengthOf into = some length := by
  intro session
  refine ⟨Session.run_all_config (Session.new config) steps, Session.run_all_within config steps,
    ?_, ?_⟩
  · intro step answer name kind length succeeded defined requested more kept
    obtain ⟨_, effect⟩ := Session.execute_ok succeeded
    obtain ⟨introduced, linear⟩ := Session.effect_introduces effect defined requested
    have live := Session.effect_state_of_defined effect defined
    obtain ⟨ended, measured⟩ := Session.run_all_length_of live linear kept
    exact ⟨ended, measured.trans introduced⟩
  · intro name into answer succeeded
    obtain ⟨_, effect⟩ := Session.execute_ok succeeded
    obtain ⟨length, measured, frozen⟩ := Session.effect_unleashes effect
    exact ⟨length, measured, Session.effect_state_of_defined effect rfl, frozen⟩

-- The limit is reached and not passed, and steps that fail in between do not count. The array is frozen
-- under its own name.
theorem lengths_are_granted_and_fixed_at_the_limit :
    let config : Config Nat := ⟨7, ⟨2⟩, false⟩
    let session := (Session.new config).runAll [.allocRaw "l" 3]
    let opening : Step Nat := .alloc "s" 2
    let more : List (Step Nat) := [.set "s" 1 8, .set "s" 2 9, .free "t", .allocRaw "l" 3]
    let written := (Session.new config).runAll [opening, .set "s" 1 8]
    ((session.execute opening).outcome = .ok none ∧ opening.defines = some ("s", .seq) ∧
      opening.requests = some 2 ∧
      (∀ later ∈ (session.after opening).succeeding more, later.releases "s" = false) ∧
      ((session.after opening).runAll more).lengthOf "s" = some 2) ∧
    ((written.execute (.unleash "s" "s")).outcome = .ok (some (.elements [7, 8])) ∧
      ∃ length, written.lengthOf "s" = some length ∧
        (written.after (.unleash "s" "s")).lengthOf "s" = some length) ∧
    written.lengthOf "s" = some 2 ∧ 2 ≤ config.limits.maxSlots.toNat := by
  intro config session opening more written
  have opened : (session.execute opening).outcome = .ok none := rfl
  have kept : ∀ later ∈ (session.after opening).succeeding more, later.releases "s" = false := by
    decide +kernel
  have unleashed : (written.execute (.unleash "s" "s")).outcome =
      .ok (some (.elements [7, 8])) := rfl
  have reached : written.lengthOf "s" = some 2 := rfl
  obtain ⟨_, _, fixed, _⟩ := lengths_are_granted_and_fixed config [.allocRaw "l" 3]
  obtain ⟨_, bounded, _, freezes⟩ :=
    lengths_are_granted_and_fixed config [opening, .set "s" 1 8]
  refine ⟨⟨opened, rfl, rfl, kept, (fixed opening none "s" .seq 2 opened rfl rfl more kept).2⟩,
    ⟨unleashed, ?_⟩, reached, bounded "s" 2 reached⟩
  obtain ⟨length, before, _, after⟩ := freezes "s" "s" _ unleashed
  exact ⟨length, before, after⟩

end LinearStore
