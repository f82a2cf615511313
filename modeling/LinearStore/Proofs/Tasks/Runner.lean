import LinearStore.Proofs.Tasks.Markers
import LinearStore.Tasks.Runner

set_option autoImplicit false

namespace LinearStore.Tasks

namespace Transcript

def attempts (transcript : Transcript) : List (List String) :=
  transcript.calls.map Call.arguments ++
    match transcript.failure with
    | some (.notStarted arguments _) => [arguments]
    | _ => []

structure Idle (transcript : Transcript) : Prop where
  failure_eq : transcript.failure = none
  attempts_eq : transcript.attempts = []

variable {first : Transcript}

theorem and_then_of_failed (failed : first.failure ≠ none) (next : Transcript) :
    first.andThen next = first := by
  obtain ⟨failure, same⟩ := Option.ne_none_iff_exists'.mp failed
  simp only [andThen, same]

theorem and_then_of_done (done : first.failure = none) (next : Transcript) :
    first.andThen next = ⟨first.output ++ next.output, first.calls ++ next.calls, next.failure⟩ := by
  simp only [andThen, done]

theorem attempts_and_then_of_done (done : first.failure = none) (next : Transcript) :
    (first.andThen next).attempts = first.attempts ++ next.attempts := by
  simp only [and_then_of_done done, attempts, done, List.map_append, List.append_nil,
    List.append_assoc]

theorem mem_attempts_and_then {arguments : List String} (tried : arguments ∈ first.attempts)
    (next : Transcript) : arguments ∈ (first.andThen next).attempts := by
  by_cases done : first.failure = none
  · rw [attempts_and_then_of_done done]
    exact List.mem_append_left _ tried
  · rwa [and_then_of_failed done]

theorem mem_calls_and_then {call : Call} (ran : call ∈ first.calls) (next : Transcript) :
    call ∈ (first.andThen next).calls := by
  by_cases done : first.failure = none
  · rw [and_then_of_done done]
    exact List.mem_append_left _ ran
  · rwa [and_then_of_failed done]

theorem and_then_assoc (first second third : Transcript) :
    (first.andThen second).andThen third = first.andThen (second.andThen third) := by
  by_cases done : first.failure = none
  · by_cases ended : second.failure = none
    · simp only [and_then_of_done, done, ended, String.append_assoc, List.append_assoc]
    · have failed : (first.andThen second).failure ≠ none := by rwa [and_then_of_done done]
      rw [and_then_of_failed failed, and_then_of_failed ended]
  · simp only [and_then_of_failed done]

theorem calls_of_untried (untried : first.attempts = []) : first.calls = [] :=
  List.map_eq_nil_iff.mp (List.append_eq_nil_iff.mp untried).1

namespace Idle

variable (idle : first.Idle) (next : Transcript)
include idle

theorem failure_and_then : (first.andThen next).failure = next.failure := by
  rw [and_then_of_done idle.failure_eq]

theorem calls_and_then : (first.andThen next).calls = next.calls := by
  rw [and_then_of_done idle.failure_eq, calls_of_untried idle.attempts_eq, List.nil_append]

theorem attempts_and_then : (first.andThen next).attempts = next.attempts := by
  rw [attempts_and_then_of_done idle.failure_eq, idle.attempts_eq, List.nil_append]

theorem and_then {next : Transcript} (later : next.Idle) : (first.andThen next).Idle :=
  ⟨(idle.failure_and_then next).trans later.failure_eq,
    (idle.attempts_and_then next).trans later.attempts_eq⟩

end Idle

end Transcript

namespace Project

def sources (project : Project) : String := project.root ++ "/src"

-- Why the check of the markers stops a run: there are no sources, or they cannot be scanned, or too
-- few of their lines are marked.
inductive Refused (project : Project) : Failure → Prop where
  | missing (absent : project.tree.child? "src" = none) :
      project.Refused (.unreadable ⟨project.sources, .missing⟩)
  | unreadable {tree : FileTree} {place : Unreadable}
      (present : project.tree.child? "src" = some tree)
      (failed : countMarkers project.sources tree = .error place) :
      project.Refused (.unreadable place)
  | tooFewMarkers {tree : FileTree} {found : Nat}
      (present : project.tree.child? "src" = some tree)
      (counted : countMarkers project.sources tree = .ok found) (less : found < 4) :
      project.Refused (.tooFewMarkers 4 found)

end Project

variable {project : Project} {failure : Failure}

theorem perform_all_append (project : Project) (before after : List Action) :
    performAll project (before ++ after) =
      (performAll project before).andThen (performAll project after) := by
  induction before with
  | nil => simp only [performAll, Transcript.andThen, List.nil_append, String.empty_append]
  | cons action before ih =>
      rw [List.cons_append, performAll, performAll, ih, Transcript.and_then_assoc]

theorem mem_attempts_call (project : Project) (directory : Option String)
    (arguments : List String) : arguments ∈ (project.call directory arguments).attempts := by
  simp only [Project.call]
  split
  · simp [Transcript.attempts]
  · split <;> simp [Transcript.attempts]

theorem mem_calls_call (tool : project.hasTool = true) (arguments : List String) :
    ⟨project.root, arguments⟩ ∈ (project.call none arguments).calls := by
  simp [Project.call, Project.entryFault?, Project.pathOf, tool]

theorem perform_check_of_refused (refused : project.Refused failure) :
    Action.checkMarkers.perform project = { failure := some failure } := by
  cases refused with
  | missing absent => simp only [Action.perform, Project.markerCount, absent, Project.sources]
  | unreadable present failed =>
      rw [Project.sources] at failed
      simp only [Action.perform, Project.markerCount, present, failed]
  | tooFewMarkers present counted less =>
      rw [Project.sources] at counted
      simp only [Action.perform, Project.markerCount, present, counted]
      exact if_pos less

theorem idle_check_of_passed (passed : ∀ failure, ¬ project.Refused failure) :
    (Action.checkMarkers.perform project).Idle := by
  cases present : project.tree.child? "src" with
  | none => exact absurd (.missing present) (passed _)
  | some tree =>
      cases scan : countMarkers project.sources tree with
      | error place => exact absurd (.unreadable present scan) (passed _)
      | ok found =>
          have enough : ¬ found < leastMarkers := fun less =>
            passed _ (.tooFewMarkers present scan less)
          rw [Project.sources] at scan
          simp only [Action.perform, Project.markerCount, present, scan, if_neg enough]
          exact ⟨rfl, rfl⟩

theorem idle_says (project : Project) (texts : List String) :
    (performAll project (texts.map .say)).Idle := by
  induction texts with
  | nil => exact ⟨rfl, rfl⟩
  | cons text rest ih =>
      have said : (Action.perform project (.say text)).Idle := ⟨rfl, rfl⟩
      exact said.and_then ih

-- A run that starts with texts and the check of the markers, and has texts only between that and its
-- first command.
def gated (texts later : List String) (arguments : List String) (rest : List Action) : List Action :=
  texts.map .say ++ .checkMarkers :: (later.map .say ++ .call none arguments :: rest)

section

variable (texts later : List String) (arguments : List String) (rest : List Action)

theorem perform_gated_of_refused (refused : project.Refused failure) :
    (performAll project (gated texts later arguments rest)).failure = some failure ∧
      (performAll project (gated texts later arguments rest)).attempts = [] := by
  have idle := idle_says project texts
  rw [gated, perform_all_append, idle.failure_and_then, idle.attempts_and_then, performAll,
    perform_check_of_refused refused, Transcript.and_then_of_failed (Option.some_ne_none failure)]
  cases refused <;> exact ⟨rfl, rfl⟩

theorem perform_gated_of_passed (passed : ∀ failure, ¬ project.Refused failure) :
    arguments ∈ (performAll project (gated texts later arguments rest)).attempts ∧
      (project.hasTool = true →
        ⟨project.root, arguments⟩ ∈ (performAll project (gated texts later arguments rest)).calls) := by
  have idle := idle_says project texts
  have checked := idle_check_of_passed passed
  have said := idle_says project later
  rw [gated, perform_all_append, idle.attempts_and_then, idle.calls_and_then, performAll,
    checked.attempts_and_then, checked.calls_and_then, perform_all_append, said.attempts_and_then,
    said.calls_and_then, performAll]
  refine ⟨Transcript.mem_attempts_and_then (mem_attempts_call project none arguments) _, ?_⟩
  exact fun tool => Transcript.mem_calls_and_then (mem_calls_call tool arguments) _

theorem stopped_untried_iff :
    (performAll project (gated texts later arguments rest)).failure = some failure ∧
        (performAll project (gated texts later arguments rest)).attempts = [] ↔
      project.Refused failure := by
  refine ⟨?_, perform_gated_of_refused texts later arguments rest⟩
  rintro ⟨stopped, untried⟩
  by_cases passed : ∀ failure, ¬ project.Refused failure
  · have tried := (perform_gated_of_passed texts later arguments rest passed).1
    rw [untried] at tried
    exact absurd tried List.not_mem_nil
  · obtain ⟨other, refused⟩ := not_forall_not.mp passed
    have same := (perform_gated_of_refused texts later arguments rest refused).1
    rw [stopped] at same
    exact Option.some.inj same ▸ refused

theorem stopped_without_calls_iff (tool : project.hasTool = true) :
    (performAll project (gated texts later arguments rest)).failure ≠ none ∧
        (performAll project (gated texts later arguments rest)).calls = [] ↔
      ∃ failure, project.Refused failure := by
  constructor
  · rintro ⟨-, unrun⟩
    by_contra passed
    have ran := (perform_gated_of_passed texts later arguments rest (not_exists.mp passed)).2 tool
    rw [unrun] at ran
    exact absurd ran List.not_mem_nil
  · rintro ⟨failure, refused⟩
    obtain ⟨stopped, untried⟩ := perform_gated_of_refused texts later arguments rest refused
    exact ⟨stopped ▸ Option.some_ne_none failure, Transcript.calls_of_untried untried⟩

end

theorem verify_gated :
    ∃ texts later rest, Task.verify.actions = gated texts later ["test", "--quiet"] rest :=
  ⟨[_, _], [_, _], _, rfl⟩

theorem run_verify (project : Project) (more : List String) :
    run project ("verify" :: more) = .ofTranscript (performAll project Task.verify.actions) := rfl

theorem code_of_transcript_ne_zero_iff {transcript : Transcript} :
    (Ending.ofTranscript transcript).code ≠ 0 ↔ transcript.failure ≠ none := by
  cases failed : transcript.failure <;> simp [Ending.ofTranscript, failed]

theorem calls_of_transcript (transcript : Transcript) :
    (Ending.ofTranscript transcript).calls = transcript.calls := by
  cases failed : transcript.failure <;> simp [Ending.ofTranscript, failed]

end LinearStore.Tasks
