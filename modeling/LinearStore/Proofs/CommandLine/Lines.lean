import LinearStore.Allocation
import LinearStore.CommandLine.Program
import LinearStore.Proofs.Json.Lines
import LinearStore.Proofs.Session.Composition
import LinearStore.Proofs.Session.Independence

set_option autoImplicit false

namespace LinearStore

open Text (IsLine Lines is_line_append)

section Names

def Violation.name? : Violation → Option String
  | useAfterConsume name _ | unknownBinding name | kindMismatch name _ _ | shadowed name _ => some name
  | _ => none

def Fault.name? : Fault → Option String
  | contractViolation violation => violation.name?
  | _ => none

variable {α : Type}

theorem Use.name_of_check_error {use : Use} {found : Option NameState} {violation : Violation}
    {name : String} (failed : use.check found = .error violation) (named : violation.name? = some name) :
    name = use.name := by
  unfold check at failed
  split at failed
  · cases failed
    exact (Option.some.inj named).symm
  · cases failed
    exact (Option.some.inj named).symm
  · split at failed <;> cases failed
    exact (Option.some.inj named).symm

theorem Use.name_of_check_all_error {uses : List Use} {state : String → Option NameState}
    {violation : Violation} {name : String} (failed : checkAll state uses = .error violation)
    (named : violation.name? = some name) : name ∈ uses.map Use.name := by
  obtain ⟨use, member, refused⟩ := check_of_check_all_error failed
  rw [name_of_check_error refused named]
  exact List.mem_map_of_mem member

theorem Step.mentioned_of_validate_error {step : Step α} {state : String → Option NameState}
    {violation : Violation} {name : String} (failed : step.validate state = .error violation)
    (named : violation.name? = some name) : name ∈ step.mentioned := by
  unfold validate at failed
  split at failed
  · rename_i checked
    cases failed
    exact List.mem_append_left _ (Use.name_of_check_all_error checked named)
  · unfold checkDefinition at failed
    split at failed
    · cases failed
    · rename_i defined
      split at failed
      · split at failed <;> cases failed
        cases named
        exact mentioned_of_defines defined
      · cases failed

namespace Session

variable [Allocator] {session next : Session α} {step : Step α}

theorem no_name_of_refuses {fault : Fault} (refused : session.Refuses step fault) :
    fault.name? = none := by
  cases refused <;> rfl

theorem mentioned_of_execute_error {fault : Fault} {name : String}
    (failed : (session.execute step).outcome = .error fault) (named : fault.name? = some name) :
    name ∈ step.mentioned := by
  rcases (execute_error failed).2 with ⟨violation, broken, rfl⟩ | ⟨_, refused⟩
  · exact Step.mentioned_of_validate_error broken named
  · rw [no_name_of_refuses refused] at named
    cases named

theorem bound_or_mentioned (session : Session α) (steps : List (Step α)) {name : String}
    (bound : (session.runAll steps).state name ≠ none) :
    session.state name ≠ none ∨ ∃ step ∈ steps, name ∈ step.mentioned := by
  induction steps generalizing session with
  | nil => exact Or.inl bound
  | cons step rest ih =>
      rw [run_all_cons] at bound
      rcases ih (session.after step) bound with before | ⟨later, member, mentioned⟩
      · cases outcome : (session.execute step).outcome with
        | error fault =>
            rw [after_error outcome] at before
            exact Or.inl before
        | ok answer =>
            by_cases mentioned : name ∈ step.mentioned
            · exact Or.inr ⟨step, List.mem_cons_self, mentioned⟩
            · have untouched := Step.untouched_of_unmentioned mentioned
              have kept := effect_state_of_untouched (execute_ok outcome).2 untouched
              rw [after, kept] at before
              exact Or.inl before
      · exact Or.inr ⟨later, List.mem_cons_of_mem _ member, mentioned⟩

omit [Allocator] in
theorem mem_names_iff {name : String} :
    name ∈ session.bindings.names ↔ session.state name ≠ none := by
  constructor
  · intro bound unbound
    obtain ⟨⟨_, entry⟩, member, rfl⟩ := List.mem_map.mp bound
    have distinct : (session.bindings.entries.map Prod.fst).Nodup :=
      List.Pairwise.map _ (fun _ _ => String.ne_of_lt) session.bindings.ordered
    rw [state, Table.find?, lookup_of_mem distinct member] at unbound
    cases unbound
  · intro bound
    obtain ⟨current, found⟩ := Option.ne_none_iff_exists'.mp bound
    obtain ⟨entry, held, _⟩ := Option.map_eq_some_iff.mp found
    exact List.mem_map_of_mem (mem_of_lookup held)

end Session

end Names

section Messages

@[simp] theorem Kind.is_line_text (kind : Kind) : IsLine kind.text := by cases kind <;> decide

@[simp] theorem Op.is_line_text (op : Op) : IsLine op.text := by cases op <;> decide

@[simp] theorem Refusal.is_line_message (refusal : Refusal) : IsLine refusal.message := by
  cases refusal with
  | beyondCapacity | exhausted => decide
  | overLimit limit =>
      unfold message
      simp +decide

theorem Violation.is_line_message_iff (violation : Violation) :
    IsLine violation.message ↔ ∀ name, violation.name? = some name → IsLine name := by
  cases violation <;> unfold message name? <;> simp +decide

theorem Fault.is_line_message_iff (fault : Fault) :
    IsLine fault.message ↔ ∀ name, fault.name? = some name → IsLine name := by
  cases fault with
  | indexOutOfRange index length =>
      unfold message name?
      simp +decide
  | allocation requested reason =>
      unfold message name?
      simp +decide
  | contractViolation violation =>
      have lead : IsLine "contract violation: " := by decide
      unfold message name?
      rw [is_line_append, and_iff_right lead, violation.is_line_message_iff]

end Messages

namespace CommandLine

open Text (ended)

section Shown

def stepShown (mark : String) (step : Nat) (op : Op) (text : String) : String :=
  mark ++ " " ++ Text.padLeft 4 (toString step) ++ "  " ++ Text.padRight 10 op.text ++ " " ++ text

def outcomeShown (outcome : Outcome Json) : String :=
  stepShown "✓" outcome.step outcome.op (outcome.answer.elim "" fun answer => answer.json.compact)

def failureShown (failure : StepFailure) : String :=
  stepShown "✗" failure.step failure.op failure.fault.message

def bindingShown (binding : String × Entry Json) : String :=
  "  " ++ Text.padRight 12 binding.1 ++ " " ++ binding.2.json.compact

theorem outcome_line_eq (outcome : Outcome Json) :
    outcomeLine outcome = outcomeShown outcome ++ "\n" := by
  cases answer : outcome.answer <;> simp [outcomeLine, outcomeShown, stepLine, stepShown, answer]

theorem report_text_eq (report : Report Json) :
    reportText report =
      ended (report.outcomes.map outcomeShown ++ report.failure.toList.map failureShown) := by
  rw [Text.ended_append, reportText]
  congr 1
  · rw [ended, List.map_map]
    exact congrArg String.join (List.map_congr_left fun outcome _ => outcome_line_eq outcome)
  · cases report.failure with
    | none => rfl
    | some failure => rfl

theorem bindings_text_eq (session : Session Json) :
    bindingsText session = ended (session.bindings.entries.map bindingShown) := by
  rw [ended, List.map_map]
  rfl

theorem is_line_step_shown_iff {mark : String} (step : Nat) (op : Op) (text : String)
    (marked : IsLine mark) : IsLine (stepShown mark step op text) ↔ IsLine text := by
  simp +decide [stepShown, marked]

theorem is_line_outcome_shown (outcome : Outcome Json) : IsLine (outcomeShown outcome) := by
  refine (is_line_step_shown_iff _ _ _ (by decide)).mpr ?_
  cases outcome.answer with
  | none => decide
  | some answer => exact answer.json.is_line_compact

theorem is_line_failure_shown_iff (failure : StepFailure) :
    IsLine (failureShown failure) ↔ ∀ name, failure.fault.name? = some name → IsLine name :=
  (is_line_step_shown_iff _ _ _ (by decide)).trans failure.fault.is_line_message_iff

theorem is_line_binding_shown_iff (binding : String × Entry Json) :
    IsLine (bindingShown binding) ↔ IsLine binding.1 := by
  simp +decide [bindingShown, Json.is_line_compact]

end Shown

-- A line for each outcome that shows it, one more for a failure, and one for each bound name.
structure LineFaithful (run : Run Json) : Prop where
  report : ∃ told, told.length = run.report.failure.toList.length ∧
    Lines (reportText run.report) (run.report.outcomes.map outcomeShown ++ told)
  bindings : ∃ lines, lines.length = run.session.bindings.names.length ∧
    Lines (bindingsText run.session) lines

theorem report_lines_iff (report : Report Json) :
    (∃ told, told.length = report.failure.toList.length ∧
        Lines (reportText report) (report.outcomes.map outcomeShown ++ told)) ↔
      ∀ failure name, report.failure = some failure → failure.fault.name? = some name →
        IsLine name := by
  rw [report_text_eq, ← List.length_map failureShown, Text.lines_ended_iff]
  constructor
  · intro unbroken failure name failed
    have shown : failureShown failure ∈ report.failure.toList.map failureShown := by
      rw [failed]
      exact List.mem_singleton_self _
    exact (is_line_failure_shown_iff failure).mp (unbroken _ (List.mem_append_right _ shown)) name
  · intro unbroken line member
    rcases List.mem_append.mp member with shown | told
    · obtain ⟨outcome, _, rfl⟩ := List.mem_map.mp shown
      exact is_line_outcome_shown outcome
    · obtain ⟨failure, failed, rfl⟩ := List.mem_map.mp told
      exact (is_line_failure_shown_iff failure).mpr fun name =>
        unbroken failure name (Option.mem_toList.mp failed)

theorem bindings_lines_iff (session : Session Json) :
    (∃ lines : List String, lines.length = session.bindings.names.length ∧
        Lines (bindingsText session) lines) ↔
      ∀ name ∈ session.bindings.names, IsLine name := by
  have long : session.bindings.names.length =
      (session.bindings.entries.map bindingShown).length := by
    rw [Table.names, List.length_map, List.length_map]
  rw [bindings_text_eq, long]
  refine (Text.lines_ended_iff [] _).trans ?_
  simp only [List.nil_append, Table.names, List.forall_mem_map, is_line_binding_shown_iff]

section Runs

variable [Allocator]

theorem mentioned_of_failure (session : Session Json) (steps : List (Step Json))
    {failure : StepFailure} {name : String}
    (failed : (session.run steps).report.failure = some failure)
    (named : failure.fault.name? = some name) : ∃ step ∈ steps, name ∈ step.mentioned := by
  rcases session.run_from_ends 0 steps with ⟨completed, _⟩ | ⟨step, fault, read, refused, same⟩
  · cases failed.symm.trans completed
  · cases failed.symm.trans same
    exact ⟨step, List.mem_of_getElem? read, Session.mentioned_of_execute_error refused named⟩

theorem mentioned_of_bound (session : Session Json) (steps : List (Step Json)) {name : String}
    (bound : name ∈ (session.run steps).session.bindings.names) :
    name ∈ session.bindings.names ∨ ∃ step ∈ steps, name ∈ step.mentioned := by
  have held := Session.mem_names_iff.mp bound
  rw [Session.run, Session.run_from_session] at held
  rcases Session.bound_or_mentioned _ _ held with before | ⟨step, member, mentioned⟩
  · exact Or.inl (Session.mem_names_iff.mpr before)
  · exact Or.inr ⟨step, List.mem_of_mem_take member, mentioned⟩

end Runs

theorem only_names_break_lines [Allocator] (session : Session Json) (steps : List (Step Json)) :
    let run := session.run steps
    (LineFaithful run ↔
      (∀ failure name, run.report.failure = some failure → failure.fault.name? = some name →
        IsLine name) ∧
      ∀ name ∈ run.session.bindings.names, IsLine name) ∧
    ((∀ name ∈ session.bindings.names, IsLine name) →
      (∀ step ∈ steps, ∀ name ∈ step.mentioned, IsLine name) → LineFaithful run) := by
  intro run
  have faithful : LineFaithful run ↔
      (∀ failure name, run.report.failure = some failure → failure.fault.name? = some name →
        IsLine name) ∧
      ∀ name ∈ run.session.bindings.names, IsLine name := by
    rw [← report_lines_iff, ← bindings_lines_iff]
    exact ⟨fun both => ⟨both.report, both.bindings⟩, fun both => ⟨both.1, both.2⟩⟩
  refine ⟨faithful, fun started unbroken => faithful.mpr ⟨?_, ?_⟩⟩
  · intro failure name failed named
    obtain ⟨step, member, mentioned⟩ := mentioned_of_failure session steps failed named
    exact unbroken step member name mentioned
  · intro name bound
    rcases mentioned_of_bound session steps bound with before | ⟨step, member, mentioned⟩
    · exact started name before
    · exact unbroken step member name mentioned

-- A text with line breaks as a value, names with blanks of every other sort, and a failure that
-- repeats one of them.
theorem only_names_break_lines_among_strange_names :
    let steps : List (Step Json) :=
      [.give "\r\t" (.string "a\n  b"), .peek "\r\t", .empty "", .unwrap "\u2028"]
    let run := (Session.new ⟨.null, {}, false⟩).run steps
    (∀ step ∈ steps, ∀ name ∈ step.mentioned, IsLine name) ∧ run.report.outcomes.length = 3 ∧
      run.report.failure.isSome = true ∧ LineFaithful run := by
  intro steps run
  have unbroken : ∀ step ∈ steps, ∀ name ∈ step.mentioned, IsLine name := by decide
  exact ⟨unbroken, by decide +kernel, by decide +kernel,
    (only_names_break_lines (Session.new ⟨.null, {}, false⟩) steps).2 (by decide) unbroken⟩

-- A name with a line break is printed in two lines, and the second of them may look like the line of
-- another name.
theorem names_forge_lines :
    let broken := (Session.new ⟨.null, {}, false⟩).run [.empty "a\nb", .discard "a\nb"]
    let forging := "a            \x7b\"consumedBy\":\"discard\"\x7d\n  b           "
    let forged := (Session.new ⟨.null, {}, false⟩).run [.empty forging, .discard forging]
    let honest := (Session.new ⟨.null, {}, false⟩).run
      [.empty "a", .discard "a", .empty "b", .discard "b"]
    ¬ LineFaithful broken ∧ forged.session.bindings.names.length = 1 ∧
      honest.session.bindings.names.length = 2 ∧
      bindingsText forged.session = bindingsText honest.session := by
  intro broken forging forged honest
  refine ⟨fun faithful => ?_, by decide +kernel, by decide +kernel, by decide +kernel⟩
  have bound : broken.session.bindings.names = ["a\nb"] := by decide +kernel
  have unbroken := (bindings_lines_iff broken.session).mp faithful.bindings
  rw [bound] at unbroken
  exact absurd (unbroken _ (List.mem_singleton_self _)) (by decide)

end CommandLine

end LinearStore
