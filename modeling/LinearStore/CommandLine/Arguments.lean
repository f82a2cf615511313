import LinearStore.Text.Basic

set_option autoImplicit false

namespace LinearStore.CommandLine

structure Flag where
  name : String
  letter : Option Char
  value : Option String := none
  purpose : String
deriving DecidableEq, Repr

def Flag.takesValue (flag : Flag) : Bool := flag.value.isSome

inductive Item where
  | switch (name : String)
  | option (name value : String)
  | plain (value : String)
  | separator
  | refused
deriving DecidableEq, Repr

-- A lone dash is a plain argument.
def isDashed (argument : String) : Bool :=
  match argument.toList with
  | '-' :: _ :: _ => true
  | _ => false

structure Scanned where
  items : List Item
  awaiting : Option String := none

def longItem (flags : List Flag) (name : List Char) : Scanned :=
  let key := String.ofList (name.takeWhile (· != '='))
  match flags.find? fun flag => flag.name = key, name.dropWhile (· != '=') with
  | some flag, [] =>
      if flag.takesValue then ⟨[], some flag.name⟩ else ⟨[.switch flag.name], none⟩
  | some flag, _ :: value =>
      if flag.takesValue then ⟨[.option flag.name (String.ofList value)], none⟩
      else ⟨[.refused], none⟩
  | none, _ => ⟨[.refused], none⟩

def attached : List Char → String
  | '=' :: value => String.ofList value
  | value => String.ofList value

-- Letters after one dash. The first of an option takes what follows it as the value.
def letterItems (flags : List Flag) : List Char → Scanned
  | [] => ⟨[], none⟩
  | letter :: rest =>
      match flags.find? fun flag => flag.letter = some letter with
      | none => ⟨[.refused], none⟩
      | some flag =>
          if flag.takesValue then
            if rest.isEmpty then ⟨[], some flag.name⟩
            else ⟨[.option flag.name (attached rest)], none⟩
          else
            let others := letterItems flags rest
            ⟨.switch flag.name :: others.items, others.awaiting⟩

def scan (flags : List Flag) : Option String → List String → List Item
  | none, [] => []
  | some _, [] => [.refused]
  | some name, argument :: rest =>
      if isDashed argument then [.refused]
      else .option name argument :: scan flags none rest
  | none, argument :: rest =>
      match argument.toList with
      | ['-', '-'] => .separator :: rest.map .plain
      | '-' :: '-' :: name =>
          let scanned := longItem flags name
          scanned.items ++ scan flags scanned.awaiting rest
      | '-' :: letter :: letters =>
          let scanned := letterItems flags (letter :: letters)
          scanned.items ++ scan flags scanned.awaiting rest
      | _ => .plain argument :: scan flags none rest

inductive Format where
  | json
  | text
deriving DecidableEq, Repr

def Format.ofText? : String → Option Format
  | "json" => some .json
  | "text" => some .text
  | _ => none

structure RunOptions where
  format : Format := .json
  pretty : Bool := false
  strictFree : Bool := false
  maxSlots : Option UInt64 := none
  bindings : Bool := false
deriving DecidableEq, Repr

inductive Command where
  | run (script : String) (options : RunOptions)
  | check (script : String)
  | demo
deriving DecidableEq, Repr

inductive Topic where
  | general
  | run
  | check
  | demo
  | help
deriving DecidableEq, Repr

inductive Request where
  | version
  | help (topic : Topic)
  | command (verbosity : Nat) (command : Command)
deriving DecidableEq, Repr

def verboseFlag : Flag where
  name := "verbose"
  letter := some 'v'
  purpose := "More logging on stderr (-v debug, -vv trace). \x60LINEAR_EXTERN_LOG\x60 wins"

def helpFlag : Flag where
  name := "help"
  letter := some 'h'
  purpose := "Print help"

def generalFlags : List Flag :=
  [verboseFlag, helpFlag, ⟨"version", some 'V', none, "Print version"⟩]

structure Form where
  takesScript : Bool
  flags : List Flag
deriving DecidableEq, Repr

def runForm : Form where
  takesScript := true
  flags :=
    [⟨"format", some 'f', some "FORMAT",
        "Output format [default: json] [possible values: json, text]"⟩,
      verboseFlag,
      ⟨"pretty", none, none, "Pretty-print JSON output"⟩,
      ⟨"strict-free", none, none, "Reject free_raw on an lseq with occupied slots"⟩,
      ⟨"max-slots", none, some "MAX_SLOTS", "Override the script's allocation limit"⟩,
      ⟨"bindings", none, none, "Also print every binding after the run"⟩,
      helpFlag]

def checkForm : Form := ⟨true, [verboseFlag, helpFlag]⟩

def demoForm : Form := ⟨false, [verboseFlag, helpFlag]⟩

structure Draft where
  verbosity : Nat := 0
  script : Option String := none
  format : Option Format := none
  maxSlots : Option UInt64 := none
  switches : List String := []
deriving DecidableEq, Repr

namespace Draft

def fill {α : Type} (old new : Option α) : Option (Option α) :=
  if old.isSome || new.isNone then none else some new

def addOption (draft : Draft) : String → String → Option Draft
  | "format", value =>
      (fill draft.format (Format.ofText? value)).map fun format => { draft with format }
  | "max-slots", value =>
      (fill draft.maxSlots (Text.wordOf value).toOption).map fun maxSlots =>
        { draft with maxSlots }
  | _, _ => none

def add (form : Form) (draft : Draft) : Item → Option Draft
  | .switch "verbose" => some { draft with verbosity := draft.verbosity + 1 }
  | .switch name =>
      if draft.switches.contains name then none
      else some { draft with switches := name :: draft.switches }
  | .option name value => draft.addOption name value
  | .plain value =>
      if form.takesScript then
        (fill draft.script (some value)).map fun script => { draft with script }
      else none
  | .separator => some draft
  | .refused => none

def options (draft : Draft) : RunOptions where
  format := draft.format.getD .json
  pretty := draft.switches.contains "pretty"
  strictFree := draft.switches.contains "strict-free"
  maxSlots := draft.maxSlots
  bindings := draft.switches.contains "bindings"

end Draft

inductive Gathered where
  | help
  | draft (draft : Draft)
deriving DecidableEq, Repr

-- Adds one item after the other; a call for help ends the reading at once.
def gather? (form : Form) (draft : Draft) : List Item → Option Gathered
  | [] => some (.draft draft)
  | .switch "help" :: _ => some .help
  | item :: rest => (draft.add form item).bind fun draft => gather? form draft rest

-- A command with its own arguments. Its own count of `verbose` replaces the one before it.
def commandRequest? (topic : Topic) (form : Form) (before : Nat) (arguments : List String)
    (commandOf? : Draft → Option Command) : Option Request := do
  match ← gather? form {} (scan form.flags none arguments) with
  | .help => return .help topic
  | .draft draft =>
      let command ← commandOf? draft
      return .command (if draft.verbosity = 0 then before else draft.verbosity) command

def helpTopic? : List String → Option Topic
  | [] => some .general
  | ["run"] => some .run
  | ["check"] => some .check
  | ["demo"] => some .demo
  | ["help"] => some .help
  | _ => none

def namedRequest? (before : Nat) (name : String) (arguments : List String) : Option Request :=
  match name with
  | "run" =>
      commandRequest? .run runForm before arguments fun draft =>
        draft.script.map fun script => .run script draft.options
  | "check" =>
      commandRequest? .check checkForm before arguments fun draft =>
        draft.script.map Command.check
  | "demo" => commandRequest? .demo demoForm before arguments fun _ => some .demo
  | "help" => (helpTopic? arguments).map Request.help
  | _ => none

def requestFrom? (before : Nat) (arguments : List String) : List Item → Option Request
  | [] =>
      match arguments with
      | [] => none
      | name :: rest => namedRequest? before name rest
  | .switch "version" :: _ => some .version
  | .switch "help" :: _ => some (.help .general)
  | .switch _ :: items => requestFrom? (before + 1) arguments items
  | _ :: _ => none

def request? (arguments : List String) : Option Request :=
  requestFrom? 0 (arguments.dropWhile isDashed)
    (scan generalFlags none (arguments.takeWhile isDashed))

def table (heading : String) (entries : List (String × String)) : String :=
  let width := (entries.map fun entry => entry.1.length).foldl max 0
  heading ++ ":\n" ++ String.join (entries.map fun entry =>
    "  " ++ Text.padRight width entry.1 ++ "  " ++ entry.2 ++ "\n")

def Flag.usage (flag : Flag) : String :=
  let letter := match flag.letter with
    | some letter => String.ofList ['-', letter, ',', ' ']
    | none => "    "
  let value := match flag.value with
    | some value => " <" ++ value ++ ">"
    | none => if flag = verboseFlag then "..." else ""
  letter ++ "--" ++ flag.name ++ value

def flagTable (flags : List Flag) : String :=
  table "Options" (flags.map fun flag => (flag.usage, flag.purpose))

def Form.tables (form : Form) : List String :=
  let script := ("<SCRIPT>", "Path to the JSON script, or \x60-\x60 for stdin")
  (if form.takesScript then [table "Arguments" [script]] else []) ++ [flagTable form.flags]

namespace Topic

def purpose : Topic → String
  | general => "Run and check scripts against the linear sequence runtime"
  | run => "Execute a script and print the outcome of each step"
  | check => "Check a script's bindings without running it"
  | demo => "Run the reference alloc/set/unleash and swap scenarios"
  | help => "Print this message or the help of the given subcommand(s)"

def usage : Topic → String
  | general => "[OPTIONS] <COMMAND>"
  | run => "run [OPTIONS] <SCRIPT>"
  | check => "check [OPTIONS] <SCRIPT>"
  | demo => "demo [OPTIONS]"
  | help => "help [COMMAND]..."

def commandTable : String :=
  table "Commands"
    [("run", run.purpose), ("check", check.purpose), ("demo", demo.purpose),
      ("help", help.purpose)]

def tables : Topic → List String
  | general => [commandTable, flagTable generalFlags]
  | run => runForm.tables
  | check => checkForm.tables
  | demo => demoForm.tables
  | help => [table "Arguments" [("[COMMAND]...", "Print help for the subcommand(s)")]]

def text (topic : Topic) : String :=
  topic.purpose ++ "\n\nUsage: linear-extern " ++ topic.usage ++ "\n" ++
    String.join (topic.tables.map fun table => "\n" ++ table)

end Topic

end LinearStore.CommandLine
