import LinearStore.Tasks.Markers
import LinearStore.Text.Basic
import LinearStore.Text.Quoted

set_option autoImplicit false

namespace LinearStore.Tasks

-- The two directories are as messages write them, and the outside tool answers each call by whether
-- it succeeds.
structure Project where
  root : String
  caller : String
  tree : FileTree
  hasTool : Bool
  succeeds : List String → Bool

structure Call where
  directory : String
  arguments : List String
deriving DecidableEq, Repr

inductive Failure where
  | unreadable (place : Unreadable)
  | tooFewMarkers (expected found : Nat)
  | notStarted (arguments : List String) (fault : FileFault)
  | unsuccessful (arguments : List String)
  | notInstalled (name : String)
  | badDuration (fault : Text.WordFault)
deriving DecidableEq, Repr

namespace Failure

def listText (arguments : List String) : String :=
  "[" ++ ", ".intercalate (arguments.map Text.quoted) ++ "]"

def message : Failure → String
  | unreadable place => "Failed to read " ++ place.path
  | tooFewMarkers expected found =>
      s!"Expected at least {expected} INVARIANT markers, found {found}. " ++
        "Someone may have removed safety comments!"
  | notStarted arguments _ => "Failed to run cargo " ++ listText arguments
  | unsuccessful arguments => "cargo " ++ listText arguments ++ " failed"
  | notInstalled name =>
      "cargo-" ++ name ++ " is not installed (cargo install cargo-" ++ name ++ ")"
  | badDuration _ => "fuzz duration must be whole seconds"

def cause : Failure → Option String
  | unreadable place => some place.fault.message
  | notStarted _ fault => some fault.message
  | badDuration fault => some fault.message
  | tooFewMarkers .. | unsuccessful _ | notInstalled _ => none

def report (failure : Failure) : String :=
  "Error: " ++ failure.message ++ "\n" ++
    match failure.cause with
    | some cause => "\nCaused by:\n    " ++ cause ++ "\n"
    | none => ""

end Failure

structure Transcript where
  output : String := ""
  calls : List Call := []
  failure : Option Failure := none
deriving DecidableEq, Repr

namespace Transcript

def andThen (first : Transcript) (next : Transcript) : Transcript :=
  match first.failure with
  | some _ => first
  | none => ⟨first.output ++ next.output, first.calls ++ next.calls, next.failure⟩

end Transcript

namespace Project

def entryFault? (project : Project) (directory : Option String) : Option FileFault :=
  match directory with
  | none => none
  | some name =>
      match project.tree.child? name with
      | none => some .missing
      | some (.file _) => some .notDirectory
      | some (.unseen fault _) => some fault
      | some (.directory _) | some (.unlisted _) => none

def pathOf (project : Project) (directory : Option String) : String :=
  match directory with
  | none => project.root
  | some name => project.root ++ "/" ++ name

def call (project : Project) (directory : Option String) (arguments : List String) : Transcript :=
  match project.entryFault? directory with
  | some fault => { failure := some (.notStarted arguments fault) }
  | none =>
      if project.hasTool then
        { calls := [⟨project.pathOf directory, arguments⟩]
          failure := if project.succeeds arguments then none else some (.unsuccessful arguments) }
      else { failure := some (.notStarted arguments .missing) }

def probeArguments (name : String) : List String := [name, "--version"]

def hasCommand (project : Project) (name : String) : Bool :=
  project.hasTool && project.succeeds (probeArguments name)

def probeCalls (project : Project) (name : String) : List Call :=
  if project.hasTool then [⟨project.caller, probeArguments name⟩] else []

def markerCount (project : Project) : Except Unreadable Nat :=
  let path := project.root ++ "/src"
  match project.tree.child? "src" with
  | none => .error ⟨path, .missing⟩
  | some node => countMarkers path node

end Project

def leastMarkers : Nat := 4

inductive Action where
  | say (text : String)
  | checkMarkers
  | call (directory : Option String) (arguments : List String)
  | callIfPresent (name directory : String)
  | require (name : String)
deriving DecidableEq, Repr

def Action.perform (project : Project) : Action → Transcript
  | say text => { output := text }
  | checkMarkers =>
      match project.markerCount with
      | .error place => { failure := some (.unreadable place) }
      | .ok found =>
          if found < leastMarkers then { failure := some (.tooFewMarkers leastMarkers found) }
          else {}
  | call directory arguments => project.call directory arguments
  | callIfPresent name directory =>
      let probe : Transcript := { calls := project.probeCalls name }
      probe.andThen <|
        if project.hasCommand name then project.call (some directory) [name]
        else { output := "  (cargo-" ++ name ++ " not installed, skipping)\n" }
  | require name =>
      { calls := project.probeCalls name
        failure := if project.hasCommand name then none else some (.notInstalled name) }

def performAll (project : Project) : List Action → Transcript
  | [] => {}
  | action :: rest => (action.perform project).andThen (performAll project rest)

inductive Task where
  | verify
  | test
  | prove
  | fuzz (seconds : UInt64)
  | check
  | bench
deriving DecidableEq, Repr

namespace Task

def rule : String := "==========================================\n"

def fuzzTargets : List String := ["lseq_ops", "seq_ops", "session_scripts"]

def fuzzActions (seconds : UInt64) (target : String) : List Action :=
  [.say s!"Fuzzing {target} for {seconds.toNat}s...\n",
    .call (some "fuzz")
      ["+nightly", "fuzz", "run", target, "--", s!"-max_total_time={seconds.toNat}"]]

def actions : Task → List Action
  | verify =>
      [.say (rule ++ "linear-extern Verification Suite\n" ++ rule ++ "\n"),
        .say "[1/5] Checking invariant markers...\n", .checkMarkers,
        .say "✓ Invariant markers present\n\n",
        .say "[2/5] Running Rust tests...\n", .call none ["test", "--quiet"],
        .say "✓ All Rust tests passed\n\n",
        .say "[3/5] Building without the CLI...\n",
        .call none ["check", "--quiet", "--no-default-features", "--lib"],
        .say "✓ Library builds alone\n\n",
        .say "[4/5] Running clippy...\n",
        .call none ["clippy", "--quiet", "--all-targets", "--", "-D", "warnings"],
        .say "✓ Clippy passed\n\n",
        .say "[5/5] Running Kani proofs...\n", .callIfPresent "kani" "kani-proofs",
        .say "✓ Kani proofs hold\n\n",
        .say (rule ++ "✓ ALL VERIFICATION CHECKS PASSED\n" ++ rule),
        .say "\nSafe to commit changes.\n"]
  | test => [.call none ["test"]]
  | prove => [.callIfPresent "kani" "kani-proofs"]
  | fuzz seconds =>
      .require "fuzz" :: fuzzTargets.flatMap (fuzzActions seconds) ++
        [.say "\n✓ No fuzz failures\n"]
  | check =>
      [.say "Running quick checks...\n\n",
        .say "[1/3] cargo check...\n", .call none ["check"],
        .say "[2/3] cargo test...\n", .call none ["test", "--quiet"],
        .say "[3/3] cargo clippy...\n",
        .call none ["clippy", "--quiet", "--", "-D", "warnings"],
        .say "\n✓ Quick checks passed\n"]
  | bench => [.call none ["bench", "--bench", "linear_bench"]]

-- The task that arguments ask for, if they name one. Fuzzing takes half a minute by default.
def ofArguments : List String → Option (Except Failure Task)
  | "verify" :: _ => some (.ok verify)
  | "test" :: _ => some (.ok test)
  | "kani" :: _ => some (.ok prove)
  | ["fuzz"] => some (.ok (fuzz 30))
  | "fuzz" :: seconds :: _ =>
      match Text.wordOf seconds with
      | .ok seconds => some (.ok (fuzz seconds))
      | .error fault => some (.error (.badDuration fault))
  | "check" :: _ => some (.ok check)
  | "bench" :: _ => some (.ok bench)
  | _ => none

def helpText : String :=
  "\ncargo xtask <COMMAND>\n\nCommands:\n" ++
  "  verify         Run full verification suite (markers + tests + clippy + Kani)\n" ++
  "  test           Run all Rust tests\n" ++
  "  kani           Run Kani proofs only\n" ++
  "  fuzz [SECS]    Run each fuzz target for SECS seconds (default 30)\n" ++
  "  check          Quick check (cargo test + clippy, no Kani)\n" ++
  "  bench          Run benchmarks\n\n"

end Task

structure Ending where
  code : Nat
  output : String
  errors : String
  calls : List Call
deriving DecidableEq, Repr

def Ending.ofTranscript (transcript : Transcript) : Ending :=
  match transcript.failure with
  | none => ⟨0, transcript.output, "", transcript.calls⟩
  | some failure => ⟨1, transcript.output, failure.report, transcript.calls⟩

def run (project : Project) (arguments : List String) : Ending :=
  match Task.ofArguments arguments with
  | none => ⟨0, "", Task.helpText, []⟩
  | some (.error failure) => .ofTranscript { failure := some failure }
  | some (.ok task) => .ofTranscript (performAll project task.actions)

end LinearStore.Tasks
