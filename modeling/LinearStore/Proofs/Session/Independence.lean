import LinearStore.Allocation
import LinearStore.Proofs.Session.Determinism
import LinearStore.Proofs.Session.Frame
import LinearStore.Proofs.Session.History
import Mathlib.Data.List.Basic

set_option autoImplicit false

namespace LinearStore

variable {α : Type}

-- Two lists merged in the order in which they take turns: `true` when the first is next.
inductive Interleaving {γ : Type} : List Bool → List γ → List γ → List γ → Prop
  | none : Interleaving [] [] [] []
  | first {turns : List Bool} {next : γ} {first second merged : List γ}
      (rest : Interleaving turns first second merged) :
      Interleaving (true :: turns) (next :: first) second (next :: merged)
  | second {turns : List Bool} {next : γ} {first second merged : List γ}
      (rest : Interleaving turns first second merged) :
      Interleaving (false :: turns) first (next :: second) (next :: merged)

theorem Use.check_all_congr {state other : String → Option NameState} {uses : List Use}
    (same : ∀ use ∈ uses, state use.name = other use.name) :
    checkAll state uses = checkAll other uses := by
  induction uses with
  | nil => rfl
  | cons use rest ih =>
      obtain ⟨here, later⟩ := List.forall_mem_cons.mp same
      rw [checkAll, checkAll, here, ih later]

namespace Step

def mentioned (step : Step α) : List String :=
  step.uses.map Use.name ++ (step.defines.map Prod.fst).toList

variable {step : Step α} {name : String}

theorem mentioned_of_use {use : Use} (used : use ∈ step.uses) : use.name ∈ step.mentioned :=
  List.mem_append_left _ (List.mem_map_of_mem used)

theorem mentioned_of_defines {kind : Kind} (defined : step.defines = some (name, kind)) :
    name ∈ step.mentioned := by
  simp [mentioned, defined]

theorem mentioned_of_addresses {index : UInt64} (addressed : step.addresses = some (name, index)) :
    name ∈ step.mentioned := by
  cases step with
  | get | set | select | swapRaw | shareRaw | take | put =>
      cases addressed
      exact List.mem_cons_self
  | _ => cases addressed

theorem mentioned_of_stores (stored : step.stores = some name) : name ∈ step.mentioned := by
  cases step with
  | set | swapRaw | take | put =>
      cases stored
      exact List.mem_cons_self
  | _ => cases stored

theorem untouched_of_unmentioned (unmentioned : name ∉ step.mentioned) :
    step.touches name = false := by
  cases redefined : step.definesName name with
  | true =>
      obtain ⟨kind, defined⟩ := defines_of_defines_name redefined
      exact absurd (mentioned_of_defines defined) unmentioned
  | false =>
      cases released : step.releases name with
      | true =>
          obtain ⟨use, used, rfl⟩ := use_of_releases released
          exact absurd (mentioned_of_use used) unmentioned
      | false => rw [touches, released, redefined, Bool.or_false]

theorem validate_congr {state other : String → Option NameState}
    (same : ∀ name ∈ step.mentioned, state name = other name) :
    step.validate state = step.validate other := by
  have uses : Use.checkAll state step.uses = Use.checkAll other step.uses :=
    Use.check_all_congr fun use used => same use.name (mentioned_of_use used)
  have definition : step.checkDefinition state = step.checkDefinition other := by
    rw [checkDefinition, checkDefinition]
    cases defined : step.defines with
    | none => rfl
    | some definition =>
        have here := same definition.1 (mentioned_of_defines defined)
        simp only [here]
  rw [validate, validate, uses, definition]

end Step

namespace Session

variable {session other : Session α} {names : String → Prop}

-- Both are configured alike, and each of these names stands for the same in both.
structure AgreeOn (names : String → Prop) (session other : Session α) : Prop where
  config : session.config = other.config
  bindings : ∀ name, names name → session.bindings.find? name = other.bindings.find? name

namespace AgreeOn

theorem refl (names : String → Prop) (session : Session α) : AgreeOn names session session :=
  ⟨rfl, fun _ _ => rfl⟩

theorem symm (agree : AgreeOn names session other) : AgreeOn names other session :=
  ⟨agree.config.symm, fun name inside => (agree.bindings name inside).symm⟩

theorem trans {third : Session α} (agree : AgreeOn names session other)
    (agree' : AgreeOn names other third) : AgreeOn names session third :=
  ⟨agree.config.trans agree'.config,
    fun name inside => (agree.bindings name inside).trans (agree'.bindings name inside)⟩

theorem eq_of_everywhere (agree : AgreeOn names session other)
    (agree' : AgreeOn (fun name => ¬ names name) session other) : session = other := by
  refine bindings_eq agree.config (Table.ext fun name => ?_)
  by_cases inside : names name
  · exact agree.bindings name inside
  · exact agree'.bindings name inside

variable (agree : AgreeOn names session other)

include agree

theorem bind (name : String) (binding : Binding α) :
    AgreeOn names (session.bind name binding) (other.bind name binding) := by
  refine ⟨agree.config, fun third inside => ?_⟩
  rw [Session.bind, Session.bind, Table.find_insert, Table.find_insert,
    agree.bindings third inside]

theorem consume (name : String) (op : Op) :
    AgreeOn names (session.consume name op) (other.consume name op) := by
  refine ⟨agree.config, fun third inside => ?_⟩
  rw [Session.consume, Session.consume, Table.find_insert, Table.find_insert,
    agree.bindings third inside]

theorem holds {name : String} {binding : Binding α} (inside : names name)
    (found : session.Holds name binding) : other.Holds name binding := by
  rw [Holds, ← agree.bindings name inside]
  exact found

theorem state_eq {name : String} (inside : names name) : session.state name = other.state name := by
  rw [state, state, agree.bindings name inside]

theorem validate_eq {step : Step α} (inside : ∀ name ∈ step.mentioned, names name) :
    step.validate session.state = step.validate other.state :=
  Step.validate_congr fun name mentioned => agree.state_eq (inside name mentioned)

variable [Allocator] {step : Step α}

theorem granted {length : Nat} {answer : Except Fault Unit}
    (asked : session.config.limits.grant payloadBytes length = answer) :
    other.config.limits.grant payloadBytes length = answer := by
  rw [← agree.config]
  exact asked

theorem effect {answer : Option (Answer α)} {next : Session α}
    (inside : ∀ name ∈ step.mentioned, names name)
    (effect : session.Effect step answer next) :
    ∃ next', other.Effect step answer next' ∧ AgreeOn names next next' := by
  have held {use : Use} (used : use ∈ step.uses) {binding : Binding α}
      (found : session.Holds use.name binding) : other.Holds use.name binding :=
    agree.holds (inside _ (Step.mentioned_of_use used)) found
  cases effect with
  | alloc granted =>
      rw [agree.config]
      exact ⟨_, .alloc (agree.granted granted), agree.bind ..⟩
  | allocInit granted => exact ⟨_, .allocInit (agree.granted granted), agree.bind ..⟩
  | allocRaw granted => exact ⟨_, .allocRaw (agree.granted granted), agree.bind ..⟩
  | give => exact ⟨_, .give, agree.bind ..⟩
  | empty => exact ⟨_, .empty, agree.bind ..⟩
  | get found read => exact ⟨_, .get (held List.mem_cons_self found) read, agree⟩
  | set found read => exact ⟨_, .set (held List.mem_cons_self found) read, agree.bind ..⟩
  | length found => exact ⟨_, .length (held List.mem_cons_self found), agree⟩
  | free found => exact ⟨_, .free (held List.mem_cons_self found), agree.consume ..⟩
  | unleash found =>
      exact ⟨_, .unleash (held List.mem_cons_self found), (agree.consume ..).bind ..⟩
  | select found read => exact ⟨_, .select (held List.mem_cons_self found) read, agree⟩
  | peek found => exact ⟨_, .peek (held List.mem_cons_self found), agree⟩
  | unwrap found => exact ⟨_, .unwrap (held List.mem_cons_self found), agree.consume ..⟩
  | discard found => exact ⟨_, .discard (held List.mem_cons_self found), agree.consume ..⟩
  | lengthRaw found => exact ⟨_, .lengthRaw (held List.mem_cons_self found), agree⟩
  | swapRaw found brought read =>
      have brought' := held (List.mem_cons_of_mem _ List.mem_cons_self) brought
      exact ⟨_, .swapRaw (held List.mem_cons_self found) brought' read,
        ((agree.bind ..).consume ..).bind ..⟩
  | shareRaw found read => exact ⟨_, .shareRaw (held List.mem_cons_self found) read, agree⟩
  | take found read => exact ⟨_, .take (held List.mem_cons_self found) read, agree.bind ..⟩
  | put found read => exact ⟨_, .put (held List.mem_cons_self found) read, agree.bind ..⟩
  | freeRaw found vacant =>
      rw [agree.config] at vacant
      exact ⟨_, .freeRaw (held List.mem_cons_self found) vacant, agree.consume ..⟩
  | freeLseq found vacant =>
      exact ⟨_, .freeLseq (held List.mem_cons_self found) vacant, agree.consume ..⟩

theorem refuses {fault : Fault} (inside : ∀ name ∈ step.mentioned, names name)
    (refused : session.Refuses step fault) : other.Refuses step fault := by
  have held {use : Use} (used : use ∈ step.uses) {binding : Binding α}
      (found : session.Holds use.name binding) : other.Holds use.name binding :=
    agree.holds (inside _ (Step.mentioned_of_use used)) found
  cases refused with
  | denied requested denied => exact .denied requested (agree.granted denied)
  | outside addressed found measured outside =>
      have mentioned := inside _ (Step.mentioned_of_addresses addressed)
      exact .outside addressed (agree.holds mentioned found) measured outside
  | peek found => exact .peek (held List.mem_cons_self found)
  | unwrap found => exact .unwrap (held List.mem_cons_self found)
  | take found read => exact .take (held List.mem_cons_self found) read
  | put found read => exact .put (held List.mem_cons_self found) read
  | freeRaw strict found occupied =>
      rw [agree.config] at strict
      exact .freeRaw strict (held List.mem_cons_self found) occupied
  | freeLseq found occupied => exact .freeLseq (held List.mem_cons_self found) occupied

theorem execute (inside : ∀ name ∈ step.mentioned, names name) :
    (session.execute step).outcome = (other.execute step).outcome ∧
      AgreeOn names (session.after step) (other.after step) := by
  cases outcome : (session.execute step).outcome with
  | ok answer =>
      obtain ⟨valid, effect⟩ := execute_ok outcome
      rw [agree.validate_eq inside] at valid
      obtain ⟨next, effect', still⟩ := agree.effect inside effect
      obtain ⟨outcome', rfl⟩ := execute_of_effect valid effect'
      exact ⟨outcome'.symm, still⟩
  | error fault =>
      obtain ⟨unchanged, reason⟩ := execute_error outcome
      have outcome' : (other.execute step).outcome = .error fault := by
        rcases reason with ⟨violation, invalid, rfl⟩ | ⟨valid, refused⟩
        · rw [agree.validate_eq inside] at invalid
          exact congrArg Execution.outcome (execute_of_violation invalid)
        · rw [agree.validate_eq inside] at valid
          exact execute_of_refuses valid (agree.refuses inside refused)
      rw [after_error outcome, after_error outcome']
      exact ⟨outcome'.symm, agree⟩

end AgreeOn

variable [Allocator] {step : Step α}

theorem effect_frame {answer : Option (Answer α)} {next : Session α} {name : String}
    (effect : session.Effect step answer next) (unmentioned : name ∉ step.mentioned) :
    next.bindings.find? name = session.bindings.find? name :=
  effect_find_of_untouched effect (Step.untouched_of_unmentioned unmentioned) fun stored =>
    unmentioned (Step.mentioned_of_stores stored)

theorem after_agrees (session : Session α)
    (outside : ∀ name ∈ step.mentioned, ¬ names name) :
    AgreeOn names (session.after step) session := by
  cases outcome : (session.execute step).outcome with
  | error fault =>
      rw [after_error outcome]
      exact .refl names session
  | ok answer =>
      have effect := (execute_ok outcome).2
      exact ⟨effect_config effect, fun name inside =>
        effect_frame effect fun mentioned => outside name mentioned inside⟩

def results (session : Session α) : List (Step α) → List (Except Fault (Option (Answer α)))
  | [] => []
  | step :: rest => (session.execute step).outcome :: (session.after step).results rest

theorem results_cons (session : Session α) (step : Step α) (rest : List (Step α)) :
    session.results (step :: rest) =
      (session.execute step).outcome :: (session.after step).results rest := rfl

theorem results_append (session : Session α) (first second : List (Step α)) :
    session.results (first ++ second) =
      session.results first ++ (session.runAll first).results second := by
  induction first generalizing session with
  | nil => rfl
  | cons step rest ih => exact congrArg ((session.execute step).outcome :: ·) (ih _)

theorem run_all_append (session : Session α) (first second : List (Step α)) :
    session.runAll (first ++ second) = (session.runAll first).runAll second :=
  List.foldl_append

theorem run_all_agrees (session : Session α) {steps : List (Step α)}
    (outside : ∀ step ∈ steps, ∀ name ∈ step.mentioned, ¬ names name) :
    AgreeOn names (session.runAll steps) session := by
  induction steps generalizing session with
  | nil => exact .refl names session
  | cons step rest ih =>
      obtain ⟨here, later⟩ := List.forall_mem_cons.mp outside
      exact (ih (session.after step) later).trans (after_agrees session here)

-- Induction on the turns. The merged run agrees with the first list's own run on the names that this
-- list may mention and with the second's on all others; each step keeps both by locality and frame.
theorem interleaved_runs {turns : List Bool} {first second merged : List (Step α)}
    (interleaved : Interleaving turns first second merged)
    (inside : ∀ step ∈ first, ∀ name ∈ step.mentioned, names name)
    (outside : ∀ step ∈ second, ∀ name ∈ step.mentioned, ¬ names name)
    {session left right : Session α} (agree : AgreeOn names session left)
    (agree' : AgreeOn (fun name => ¬ names name) session right) :
    Interleaving turns (left.results first) (right.results second) (session.results merged) ∧
      AgreeOn names (session.runAll merged) (left.runAll first) ∧
      AgreeOn (fun name => ¬ names name) (session.runAll merged) (right.runAll second) := by
  induction interleaved generalizing session left right with
  | none => exact ⟨.none, agree, agree'⟩
  | @first turns step first second merged rest ih =>
      obtain ⟨here, later⟩ := List.forall_mem_cons.mp inside
      obtain ⟨same, still⟩ := agree.execute here
      have unnoticed : AgreeOn (fun name => ¬ names name) (session.after step) session :=
        after_agrees session fun name mentioned other => other (here name mentioned)
      obtain ⟨answered, ended, ended'⟩ := ih later outside still (unnoticed.trans agree')
      refine ⟨?_, ended, ended'⟩
      rw [results_cons, results_cons, same]
      exact .first answered
  | @second turns step first second merged rest ih =>
      obtain ⟨here, later⟩ := List.forall_mem_cons.mp outside
      obtain ⟨same, still⟩ := agree'.execute here
      have unnoticed : AgreeOn names (session.after step) session := after_agrees session here
      obtain ⟨answered, ended, ended'⟩ := ih inside later (unnoticed.trans agree) still
      refine ⟨?_, ended, ended'⟩
      rw [results_cons, results_cons, same]
      exact .second answered

end Session

-- What each list would answer by itself, the second after the whole of the first, comes out in the
-- order of the turns.
theorem disjoint_steps_are_independent [Allocator] (session : Session α) {turns : List Bool}
    {first second merged : List (Step α)} (interleaved : Interleaving turns first second merged)
    (disjoint : ∀ step ∈ first, ∀ other ∈ second, ∀ name ∈ step.mentioned,
      name ∉ other.mentioned) :
    session.results (first ++ second) =
        session.results first ++ (session.runAll first).results second ∧
      Interleaving turns (session.results first) ((session.runAll first).results second)
        (session.results merged) ∧
      session.runAll merged = session.runAll (first ++ second) := by
  let names : String → Prop := fun name => ∃ step ∈ first, name ∈ step.mentioned
  have inside : ∀ step ∈ first, ∀ name ∈ step.mentioned, names name :=
    fun step member name mentioned => ⟨step, member, mentioned⟩
  have outside : ∀ other ∈ second, ∀ name ∈ other.mentioned, ¬ names name := by
    rintro other member name mentioned ⟨step, member', mentioned'⟩
    exact disjoint step member' other member name mentioned' mentioned
  have unnoticed : Session.AgreeOn (fun name => ¬ names name) (session.runAll first) session :=
    Session.run_all_agrees session fun step member name mentioned other =>
      other (inside step member name mentioned)
  obtain ⟨answered, ended, ended'⟩ :=
    Session.interleaved_runs interleaved inside outside (.refl names session) unnoticed.symm
  refine ⟨Session.results_append session first second, answered, ?_⟩
  rw [Session.run_all_append]
  have kept := Session.run_all_agrees (session.runAll first) outside
  exact (ended.trans kept.symm).eq_of_everywhere ended'

-- The one list fills an array twice and then cannot release it; the other unwraps a value and reads
-- where it was.
theorem disjoint_steps_are_independent_with_failures :
    let session : Session Nat := .new ⟨0, {}, true⟩
    let first : List (Step Nat) := [.allocRaw "l" 1, .put "l" 0 4, .put "l" 0 5, .freeRaw "l"]
    let second : List (Step Nat) := [.give "m" 6, .unwrap "m", .peek "m"]
    let merged : List (Step Nat) :=
      [.give "m" 6, .allocRaw "l" 1, .put "l" 0 4, .unwrap "m", .put "l" 0 5, .peek "m",
        .freeRaw "l"]
    let turns := [false, true, true, false, true, false, true]
    let filled : Fault := .contractViolation (.slotOccupied 0)
    let unreleased : Fault := .contractViolation (.freeWithOccupiedSlots 1)
    let consumed : Fault := .contractViolation (.useAfterConsume "m" .unwrap)
    Interleaving turns first second merged ∧
    (∀ step ∈ first, ∀ other ∈ second, ∀ name ∈ step.mentioned, name ∉ other.mentioned) ∧
    session.results first = [.ok none, .ok none, .error filled, .error unreleased] ∧
    (session.runAll first).results second =
      [.ok none, .ok (some (.element 6)), .error consumed] ∧
    session.results merged =
      [.ok none, .ok none, .ok none, .ok (some (.element 6)), .error filled, .error consumed,
        .error unreleased] ∧
    Interleaving turns (session.results first) ((session.runAll first).results second)
      (session.results merged) ∧
    session.runAll merged = session.runAll (first ++ second) := by
  intro session first second merged turns filled unreleased consumed
  have interleaved : Interleaving turns first second merged :=
    .second (.first (.first (.second (.first (.second (.first .none))))))
  have disjoint : ∀ step ∈ first, ∀ other ∈ second, ∀ name ∈ step.mentioned,
      name ∉ other.mentioned := by
    decide
  have one : session.results first = [.ok none, .ok none, .error filled, .error unreleased] := by
    decide +kernel
  have other : (session.runAll first).results second =
      [.ok none, .ok (some (.element 6)), .error consumed] := by
    decide +kernel
  have both : session.results merged =
      [.ok none, .ok none, .ok none, .ok (some (.element 6)), .error filled, .error consumed,
        .error unreleased] := by
    decide +kernel
  obtain ⟨_, answered, ended⟩ := disjoint_steps_are_independent session interleaved disjoint
  exact ⟨interleaved, disjoint, one, other, both, answered, ended⟩

end LinearStore
