import LinearStore.Allocation
import LinearStore.CommandLine.Arguments
import LinearStore.FileTree
import LinearStore.Json.Basic
import LinearStore.Json.Printer
import LinearStore.Log.Filter
import LinearStore.Script.Basic
import LinearStore.Script.Decoding
import LinearStore.Session.Snapshot
import LinearStore.Text.Basic

set_option autoImplicit false

namespace LinearStore.CommandLine

def stepLine (mark : String) (step : Nat) (op : Op) (text : String) : String :=
  mark ++ " " ++ Text.padLeft 4 (toString step) ++ "  " ++ Text.padRight 10 op.text ++ " " ++
    text ++ "\n"

def outcomeLine (outcome : Outcome Json) : String :=
  let value := match outcome.answer with
    | some answer => answer.json.compact
    | none => ""
  stepLine "✓" outcome.step outcome.op value

def failureLine (failure : StepFailure) : String :=
  stepLine "✗" failure.step failure.op failure.fault.message

def reportText (report : Report Json) : String :=
  String.join (report.outcomes.map outcomeLine) ++
    match report.failure with
    | some failure => failureLine failure
    | none => ""

def bindingLine (binding : String × Entry Json) : String :=
  "  " ++ Text.padRight 12 binding.1 ++ " " ++ binding.2.json.compact ++ "\n"

def bindingsText (session : Session Json) : String :=
  String.join (session.bindings.entries.map bindingLine)

def reportDocument (bindings : Option Json) (report : Report Json) : Json :=
  .object ((bindings.map fun bindings => ("bindings", bindings)).toList ++ report.members)

def int (value : Int) : Json := .number (.int value)

def arrayDemo : Script Json where
  config := ⟨int 0, {}, false⟩
  steps :=
    [.alloc "s" 3, .set "s" 1 (int 7), .get "s" 1, .unleash "s" "frozen"]

def slotDemo : Script Json where
  config := ⟨.null, {}, false⟩
  steps :=
    [.allocRaw "l" 2, .give "five" (int 5), .swapRaw "l" 0 "five" "old", .discard "old",
      .give "nine" (int 9), .swapRaw "l" 0 "nine" "old", .shareRaw "l" 0]

def demos : List (Script Json) := [arrayDemo, slotDemo]

structure Environment where
  filter : Option String
  input : Except FileFault String
  file : String → Except FileFault String

structure Ending where
  code : Nat
  output : String
  errors : String
deriving DecidableEq, Repr

def versionText : String := "linear-extern 0.3.0\n"

def usageError : Ending := ⟨2, "", "usage error\n"⟩

def breakdown (message : String) : Ending := ⟨2, "", "❌ " ++ message ++ "\n"⟩

def fallbackLevel : Nat → Level
  | 0 => .warn
  | 1 => .debug
  | _ => .trace

def logFilter (setting : Option String) (verbosity : Nat) : Log.Filter :=
  match setting.bind Log.Filter.ofText? with
  | some filter => filter
  | none => .upTo (fallbackLevel verbosity)

def origin : String := "linear_extern"

def leakRecord (message name : String) : Record :=
  ⟨.warn, origin, message, [("binding", .display name)]⟩

def loadScript (environment : Environment) (path : String) : Except String (Script Json) :=
  let (contents, reading) :=
    if path = "-" then (environment.input, "reading script from stdin")
    else (environment.file path, "reading script " ++ path)
  match contents with
  | .error fault => .error (reading ++ ": " ++ fault.message)
  | .ok text =>
      match Script.parse text with
      | .error error => .error ("parsing script " ++ path ++ ": " ++ error.message)
      | .ok script => .ok script

def configure (options : RunOptions) (script : Script Json) : Script Json :=
  let config := script.config
  { script with
    config :=
      { config with
        strictFree := options.strictFree || config.strictFree
        limits := ⟨options.maxSlots.getD config.limits.maxSlots⟩ } }

def runOutput (options : RunOptions) (run : Run Json) : String :=
  match options.format with
  | .json =>
      let bindings := if options.bindings then some run.session.snapshot else none
      let document := reportDocument bindings run.report
      (if options.pretty then document.indented else document.compact) ++ "\n"
  | .text =>
      reportText run.report ++ if options.bindings then bindingsText run.session else ""

def runScript [Allocator] (filter : Log.Filter) (options : RunOptions) (script : Script Json) :
    Ending :=
  let run := (Session.new script.config).run script.steps
  let leaks := run.session.liveLinear.map
    (leakRecord "linear value still live at end of run")
  let log := Log.render filter (run.events.map Event.record ++ leaks)
  let output := runOutput options run
  match run.report.failure with
  | none => ⟨0, output, log⟩
  | some failure => ⟨1, output, log ++ "❌ " ++ failure.message ++ "\n"⟩

def checkScript (filter : Log.Filter) (script : Script Json) : Ending :=
  match script.check with
  | .ok () =>
      let leaks := script.leaked.map (leakRecord "linear value still live at end of script")
      ⟨0, s!"ok {script.steps.length} steps\n", Log.render filter leaks⟩
  | .error failure => ⟨1, "", failureLine failure⟩

def runDemos [Allocator] (filter : Log.Filter) : Ending :=
  let endings := demos.map (runScript filter { format := .text, bindings := true })
  ⟨0, String.join (endings.map fun ending => ending.output ++ "\n"),
    String.join (endings.map Ending.errors)⟩

def withScript (environment : Environment) (path : String) (use : Script Json → Ending) :
    Ending :=
  match loadScript environment path with
  | .error message => breakdown message
  | .ok script => use script

def execute [Allocator] (environment : Environment) (filter : Log.Filter) : Command → Ending
  | .run path options =>
      withScript environment path fun script =>
        runScript filter options (configure options script)
  | .check path => withScript environment path (checkScript filter)
  | .demo => runDemos filter

def program [Allocator] (environment : Environment) (arguments : List String) : Ending :=
  match request? arguments with
  | none => usageError
  | some .version => ⟨0, versionText, ""⟩
  | some (.help topic) => ⟨0, topic.text, ""⟩
  | some (.command verbosity command) =>
      execute environment (logFilter environment.filter verbosity) command

end LinearStore.CommandLine
