import LinearStore.CommandLine.Program
import LinearStore.Proofs.CommandLine.Arguments
import LinearStore.Proofs.Json.Document
import LinearStore.Proofs.Script.RoundTrip
import LinearStore.Proofs.Session.Check
import LinearStore.Proofs.Session.Sorted

set_option autoImplicit false

namespace LinearStore.CommandLine

-- The script that a path leads to: what the path names can be read, and it is a script.
def Supplies (environment : Environment) (path : String) (script : Script Json) : Prop :=
  ∃ text, (if path = "-" then environment.input else environment.file path) = .ok text ∧
    Script.parse text = .ok script

def RunOptions.applied (options : RunOptions) (config : Config Json) : Config Json where
  defaultValue := config.defaultValue
  limits := match options.maxSlots with
    | some maxSlots => ⟨maxSlots⟩
    | none => config.limits
  strictFree := config.strictFree || options.strictFree

theorem configure_eq (options : RunOptions) (script : Script Json) :
    configure options script = ⟨options.applied script.config, script.steps⟩ := by
  cases maxSlots : options.maxSlots <;>
    simp [configure, RunOptions.applied, maxSlots, Bool.or_comm]

section

variable {environment : Environment} {path : String}

theorem load_script_iff (script : Script Json) :
    loadScript environment path = .ok script ↔ Supplies environment path script := by
  unfold loadScript Supplies
  by_cases dash : path = "-"
  · subst dash
    simp only [if_true]
    cases environment.input with
    | error fault => simp
    | ok text => cases parsed : Script.parse text <;> simp [parsed]
  · simp only [dash, if_false]
    cases environment.file path with
    | error fault => simp
    | ok text => cases parsed : Script.parse text <;> simp [parsed]

theorem with_script_of_supplied {script : Script Json} (supplied : Supplies environment path script)
    (use : Script Json → Ending) : withScript environment path use = use script := by
  rw [withScript, (load_script_iff script).mpr supplied]

theorem with_script_of_unsupplied (unsupplied : ¬ ∃ script, Supplies environment path script)
    (use : Script Json → Ending) :
    (withScript environment path use).code = 2 ∧ (withScript environment path use).output = "" := by
  cases loaded : loadScript environment path with
  | ok script => exact absurd ⟨script, (load_script_iff script).mp loaded⟩ unsupplied
  | error message =>
      rw [withScript, loaded]
      exact ⟨rfl, rfl⟩

theorem code_eq_two_iff {use : Script Json → Ending} (codes : ∀ script, (use script).code ≠ 2) :
    (withScript environment path use).code = 2 ↔ ¬ ∃ script, Supplies environment path script := by
  refine ⟨?_, fun unsupplied => (with_script_of_unsupplied unsupplied use).1⟩
  rintro broken ⟨script, supplied⟩
  rw [with_script_of_supplied supplied] at broken
  exact codes script broken

end

section

variable [Allocator] (filter : Log.Filter) (options : RunOptions) (config : Config Json)
  (steps : List (Step Json))

theorem run_script_code :
    (runScript filter options ⟨config, steps⟩).code =
      if ((Session.new config).run steps).report.failure.isNone then 0 else 1 := by
  cases ended : ((Session.new config).run steps).report.failure <;> simp [runScript, ended]

theorem run_script_output :
    (runScript filter options ⟨config, steps⟩).output =
      runOutput options ((Session.new config).run steps) := by
  cases ended : ((Session.new config).run steps).report.failure <;> simp [runScript, ended]

omit [Allocator] in
theorem check_script_code (script : Script Json) :
    (checkScript filter script).code = if script.check.isOk then 0 else 1 := by
  unfold checkScript
  cases script.check <;> rfl

end

section

variable [Allocator] {environment : Environment} {path : String} {arguments : List String}
  {verbosity : Nat} {options : RunOptions} {script : Script Json}

theorem program_of_request {command : Command}
    (requested : request? arguments = some (.command verbosity command)) :
    program environment arguments =
      execute environment (logFilter environment.filter verbosity) command := by
  rw [program, requested]

section

variable (requested : request? arguments = some (.command verbosity (.run path options)))

include requested

theorem run_code_eq_two_iff :
    (program environment arguments).code = 2 ↔ ¬ ∃ script, Supplies environment path script := by
  rw [program_of_request requested, execute]
  refine code_eq_two_iff fun script => ?_
  rw [configure_eq, run_script_code]
  split <;> decide

theorem run_output_of_unsupplied (unsupplied : ¬ ∃ script, Supplies environment path script) :
    (program environment arguments).output = "" := by
  rw [program_of_request requested, execute]
  exact (with_script_of_unsupplied unsupplied _).2

theorem program_run (supplied : Supplies environment path script) :
    program environment arguments = runScript (logFilter environment.filter verbosity) options
      ⟨options.applied script.config, script.steps⟩ := by
  rw [program_of_request requested, execute, with_script_of_supplied supplied, configure_eq]

theorem run_code (supplied : Supplies environment path script) :
    (program environment arguments).code =
      if ((Session.new (options.applied script.config)).run script.steps).report.failure.isNone
        then 0 else 1 := by
  rw [program_run requested supplied, run_script_code]

theorem run_output (supplied : Supplies environment path script) :
    (program environment arguments).output =
      runOutput options ((Session.new (options.applied script.config)).run script.steps) := by
  rw [program_run requested supplied, run_script_output]

end

section

variable (requested : request? arguments = some (.command verbosity (.check path)))

include requested

theorem check_code_eq_two_iff :
    (program environment arguments).code = 2 ↔ ¬ ∃ script, Supplies environment path script := by
  rw [program_of_request requested, execute]
  refine code_eq_two_iff fun script => ?_
  rw [check_script_code]
  split <;> decide

theorem check_output_of_unsupplied (unsupplied : ¬ ∃ script, Supplies environment path script) :
    (program environment arguments).output = "" := by
  rw [program_of_request requested, execute]
  exact (with_script_of_unsupplied unsupplied _).2

theorem check_code (supplied : Supplies environment path script) :
    (program environment arguments).code = if script.check.isOk then 0 else 1 := by
  rw [program_of_request requested, execute, with_script_of_supplied supplied, check_script_code]

end

end

section

variable [Allocator] {environment : Environment} {path : String} {checking running : List String}
  {quiet loud : Nat} {options : RunOptions}
  (asked : request? checking = some (.command quiet (.check path)))

include asked

theorem value_level_of_check (passed : (program environment checking).code = 0) {script : Script Json}
    (supplied : Supplies environment path script) {config : Config Json} {failure : StepFailure}
    (failed : ((Session.new config).run script.steps).report.failure = some failure) :
    failure.fault.isNameLevel = false := by
  rw [check_code asked supplied] at passed
  cases nameLevel : failure.fault.isNameLevel with
  | false => rfl
  | true =>
      have refused : script.check = .error failure := Session.check_of_name_level_failure failed nameLevel
      rw [refused] at passed
      cases passed

theorem check_of_run (requested : request? running = some (.command loud (.run path options)))
    (succeeded : (program environment running).code = 0) : (program environment checking).code = 0 := by
  by_cases had : ∃ script, Supplies environment path script
  · obtain ⟨script, supplied⟩ := had
    rw [run_code requested supplied] at succeeded
    have unfailed : ((Session.new (options.applied script.config)).run script.steps).report.failure =
        none := by
      by_contra failed
      simp [failed] at succeeded
    have checked : script.check = .ok () := (Session.check_of_run_success unfailed).1
    rw [check_code asked supplied, checked]
    rfl
  · rw [(run_code_eq_two_iff requested).mpr had] at succeeded
    cases succeeded

end

-- A document of a script that was read has its members in order, so it is read back as it is.
theorem document_holds [Allocator] {text : String} {script : Script Json}
    (parsed : Script.parse text = .ok script) {config : Config Json}
    (value : config.defaultValue = script.config.defaultValue) (isBound isIndented : Bool) :
    let run := (Session.new config).run script.steps
    let document := reportDocument (if isBound then some run.session.snapshot else none) run.report
    Json.Holds ((if isIndented then document.indented else document.compact) ++ "\n") document := by
  intro run document
  have inOrder := Script.parse_sorted parsed
  refine Json.line_holds (run_document_sorted ?_ (fun step inside payload held => ?_) isBound) isIndented
  · rw [value]
    exact inOrder _ List.mem_cons_self
  · exact inOrder payload (List.mem_cons_of_mem _ (List.mem_flatMap.mpr ⟨step, inside, held⟩))

theorem report_members (bindings : Option Json) (report : Report Json) :
    let document := reportDocument bindings report
    document.member? "outcomes" = some (.array (report.outcomes.map Outcome.json)) ∧
    document.member? "failure" = report.failure.map StepFailure.json ∧
    document.member? "bindings" = bindings ∧
    ∀ name, name ∉ ["outcomes", "failure", "bindings"] → document.member? name = none := by
  intro document
  obtain ⟨outcomes, failure⟩ := report
  cases bindings <;> cases failure <;>
    refine ⟨rfl, rfl, rfl, fun name other => ?_⟩ <;>
    simp_all [document, reportDocument, Report.members, Json.member?, lookupName]

theorem command_line_follows_library [Allocator] (environment : Environment) (path : String) :
    (∀ arguments verbosity options,
      request? arguments = some (.command verbosity (.run path options)) →
        let ending := program environment arguments
        (ending.code = 2 ↔ ¬ ∃ script, Supplies environment path script) ∧
        ((¬ ∃ script, Supplies environment path script) → ending.output = "") ∧
        ∀ script, Supplies environment path script →
          let run := (Session.new (options.applied script.config)).run script.steps
          let bindings := if options.bindings then some run.session.snapshot else none
          let document := reportDocument bindings run.report
          ending.code = (if run.report.failure.isNone then 0 else 1) ∧
          (options.format = .json → Json.Holds ending.output document) ∧
          (options.format = .text → ending.output =
            reportText run.report ++ if options.bindings then bindingsText run.session else "") ∧
          document.member? "outcomes" = some (.array (run.report.outcomes.map Outcome.json)) ∧
          document.member? "failure" = run.report.failure.map StepFailure.json ∧
          document.member? "bindings" = bindings ∧
          (∀ name, name ∉ ["outcomes", "failure", "bindings"] → document.member? name = none)) ∧
    (∀ arguments verbosity, request? arguments = some (.command verbosity (.check path)) →
        let ending := program environment arguments
        (ending.code = 2 ↔ ¬ ∃ script, Supplies environment path script) ∧
        ((¬ ∃ script, Supplies environment path script) → ending.output = "") ∧
        ∀ script, Supplies environment path script → ∀ config : Config Json,
          let other : Script Json := ⟨config, script.steps⟩
          (ending.code = 0 ↔ other.check = .ok ()) ∧
          (ending.code = 1 ↔ ∃ failure, other.check = .error failure)) ∧
    (∀ checking running quiet loud options,
      request? checking = some (.command quiet (.check path)) →
      request? running = some (.command loud (.run path options)) →
        ((program environment checking).code = 0 → ∀ script, Supplies environment path script →
          ∀ failure, ((Session.new (options.applied script.config)).run script.steps).report.failure =
            some failure → failure.fault.isNameLevel = false) ∧
        ((program environment running).code = 0 → (program environment checking).code = 0)) ∧
    (isDashed path = false →
      (∀ options, request? ("run" :: path :: options.arguments) =
        some (.command 0 (.run path options))) ∧
      request? ["check", path] = some (.command 0 (.check path))) := by
  refine ⟨?run, ?check, ?agree, fun plain => ⟨request_of_options plain, request_of_check plain⟩⟩
  case run =>
    intro arguments verbosity options requested ending
    refine ⟨run_code_eq_two_iff requested, run_output_of_unsupplied requested, ?_⟩
    intro script supplied run bindings document
    have output : ending.output = runOutput options run := run_output requested supplied
    refine ⟨run_code requested supplied, fun format => ?json, fun format => ?text,
      report_members bindings run.report⟩
    case json =>
      obtain ⟨text, _, parsed⟩ := supplied
      have value : (options.applied script.config).defaultValue = script.config.defaultValue := rfl
      rw [output, runOutput, format]
      exact document_holds parsed value options.bindings options.pretty
    case text => rw [output, runOutput, format]
  case check =>
    intro arguments verbosity requested ending
    refine ⟨check_code_eq_two_iff requested, check_output_of_unsupplied requested, ?_⟩
    intro script supplied config other
    have same : other.check = script.check := rfl
    rw [same, check_code requested supplied]
    cases script.check <;> simp [Except.isOk, Except.toBool]
  case agree =>
    intro checking running quiet loud options asked requested
    refine ⟨fun passed script supplied failure failed => ?_, check_of_run asked requested⟩
    exact value_level_of_check asked passed supplied failed

-- A script that has more slots than a run may have, with a binary fraction for its default value and with
-- the members of a payload out of order.
def limitedText : String :=
  "\x7b\"config\": \x7b\"defaultValue\": 0.5\x7d, \"steps\": [\n" ++
  "\x7b\"op\": \"alloc\", \"name\": \"s\", \"length\": 1\x7d,\n" ++
  "[\"give\", \"m\", \x7b\"b\": [], \"a\": -7\x7d],\n" ++
  "[\"get\", \"s\", 0], [\"alloc_raw\", \"l\", 2]]\x7d\n"

def limitedScript : Script Json where
  config := ⟨.number (.float 0.5), {}, false⟩
  steps :=
    [.alloc "s" 1, .give "m" (.object [("a", .number (.int (-7))), ("b", .array [])]), .get "s" 0,
      .allocRaw "l" 2]

def limitedDocument : Json :=
  .object
    [("bindings", .object
        [("m", .object [("kind", .string "maybe"), ("slot", .object
            [("full", .object [("a", .number (.int (-7))), ("b", .array [])])])]),
          ("s", .object [("elements", .array [.number (.float 0.5)]), ("kind", .string "seq")])]),
      ("failure", .object
        [("error", .string "cannot allocate 2 slots: exceeds configured limit of 1 slots"),
          ("op", .string "alloc_raw"), ("step", .nat 3)]),
      ("outcomes", .array
        [.object [("op", .string "alloc"), ("step", .nat 0)],
          .object [("op", .string "give"), ("step", .nat 1)],
          .object [("op", .string "get"), ("step", .nat 2), ("value", .number (.float 0.5))]])]

theorem value_makes_half : Json.Conversion.Makes Numeral.value (.float 0.5) (.float 0.5) := by
  intro numeral scanned
  have spelt : Numeral.scan (Number.float 0.5).chars = .ok (⟨false, ['0'], ['5'], none⟩, []) := by
    decide +kernel
  rw [spelt] at scanned
  cases scanned
  decide +kernel

theorem command_line_follows_library_when_limited :
    let environment : Environment := ⟨none, .ok limitedText, fun _ => .error .missing⟩
    let running := ["run", "-", "-v", "--pretty", "--max-slots=1", "--bindings"]
    let options : RunOptions := { pretty := true, maxSlots := some 1, bindings := true }
    request? running = some (.command 1 (.run "-" options)) ∧
    Supplies environment "-" limitedScript ∧
    (program environment running).code = 1 ∧
    Json.Conversion.parse Numeral.value (program environment running).output = .ok limitedDocument ∧
    (program environment ["check", "-"]).code = 0 ∧
    (program environment ["check", "gone"]).code = 2 ∧
    request? ["run", "-", "--format", "json", "--pretty", "--max-slots", "1", "--bindings"] =
      some (.command 0 (.run "-" options)) := by
  intro environment running options
  have requested : request? running = some (.command 1 (.run "-" options)) := by decide +kernel
  have supplied : Supplies environment "-" limitedScript := ⟨limitedText, rfl, by decide +kernel⟩
  obtain ⟨run, check, _, flags⟩ := command_line_follows_library environment "-"
  obtain ⟨code, json, _⟩ := (run running 1 options requested).2.2 limitedScript supplied
  have checked := ((check ["check", "-"] 0 (by decide +kernel)).2.2 limitedScript supplied
    limitedScript.config).1
  have lost := ((command_line_follows_library environment "gone").2.1 ["check", "gone"] 0
    (by decide +kernel)).1
  have document : reportDocument
      (some ((Session.new (options.applied limitedScript.config)).run limitedScript.steps).session.snapshot)
      ((Session.new (options.applied limitedScript.config)).run limitedScript.steps).report =
        limitedDocument := by decide +kernel
  have numbers : ∀ n ∈ limitedDocument.numbers, Json.Conversion.Makes Numeral.value n n := by
    have words : ∀ n ∈ limitedDocument.numbers, n.isWord = true ∨ n = .float 0.5 := by decide +kernel
    intro n member
    rcases words n member with word | rfl
    · exact Json.value_makes_word word
    · exact value_makes_half
  refine ⟨requested, supplied, code.trans (by decide +kernel), ?_, checked.mpr (by decide +kernel), ?_,
    (flags rfl).1 options⟩
  · have holds := json rfl
    have printed : Json.Holds (program environment running).output limitedDocument := document ▸ holds
    exact printed.readBack Numeral.value numbers
  · refine lost.mpr ?_
    rintro ⟨script, text, contents, _⟩
    cases contents

end LinearStore.CommandLine
