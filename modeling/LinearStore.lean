import LinearStore.Allocation
import LinearStore.Cells
import LinearStore.CommandLine.Arguments
import LinearStore.CommandLine.Program
import LinearStore.Contract
import LinearStore.Contract.Calls
import LinearStore.Custody.Action
import LinearStore.Custody.Basic
import LinearStore.Decimal.Shortest
import LinearStore.Event
import LinearStore.Fault
import LinearStore.Fault.Inspect
import LinearStore.FileTree
import LinearStore.Json.Basic
import LinearStore.Json.Failure
import LinearStore.Json.Numeral
import LinearStore.Json.Printer
import LinearStore.Json.Reader
import LinearStore.Json.Record
import LinearStore.Json.Skip
import LinearStore.Json.Text
import LinearStore.Json.Token
import LinearStore.LinearArray
import LinearStore.Log.Directive
import LinearStore.Log.Filter
import LinearStore.Log.Pattern
import LinearStore.Log.Pattern.Atom
import LinearStore.Log.Pattern.CharacterClass
import LinearStore.Main
import LinearStore.Op
import LinearStore.Proofs.Allocation
import LinearStore.Proofs.Cells
import LinearStore.Proofs.CommandLine.Arguments
import LinearStore.Proofs.CommandLine.Lines
import LinearStore.Proofs.CommandLine.Program
import LinearStore.Proofs.Contract.Asserted
import LinearStore.Proofs.Custody.Balance
import LinearStore.Proofs.Custody.Frozen
import LinearStore.Proofs.Custody.Operations
import LinearStore.Proofs.Custody.Transfer
import LinearStore.Proofs.Decimal.Shortest
import LinearStore.Proofs.FileTree
import LinearStore.Proofs.Filling
import LinearStore.Proofs.Json.Conversion
import LinearStore.Proofs.Json.Document
import LinearStore.Proofs.Json.Lexer
import LinearStore.Proofs.Json.Lines
import LinearStore.Proofs.Json.Numeral
import LinearStore.Proofs.Json.Printer
import LinearStore.Proofs.Json.Reader
import LinearStore.Proofs.Json.Settling
import LinearStore.Proofs.Json.Shape
import LinearStore.Proofs.Json.Skip
import LinearStore.Proofs.Json.Text
import LinearStore.Proofs.Json.Yields
import LinearStore.Proofs.LinearArray
import LinearStore.Proofs.LinearArray.LastWriter
import LinearStore.Proofs.Rejection
import LinearStore.Proofs.Script.Decoding
import LinearStore.Proofs.Script.Discipline
import LinearStore.Proofs.Script.Linearity
import LinearStore.Proofs.Script.Members
import LinearStore.Proofs.Script.Presentation
import LinearStore.Proofs.Script.Renaming
import LinearStore.Proofs.Script.RoundTrip
import LinearStore.Proofs.Script.Settings
import LinearStore.Proofs.Script.Settling
import LinearStore.Proofs.Script.Sorted
import LinearStore.Proofs.Script.Tenure
import LinearStore.Proofs.Script.Touch
import LinearStore.Proofs.Script.Validity
import LinearStore.Proofs.Script.Writes
import LinearStore.Proofs.Sequence
import LinearStore.Proofs.Sequence.Prefix
import LinearStore.Proofs.Session.Accounting
import LinearStore.Proofs.Session.ArrayLifecycle
import LinearStore.Proofs.Session.Asserted
import LinearStore.Proofs.Session.Causes
import LinearStore.Proofs.Session.Check
import LinearStore.Proofs.Session.Composition
import LinearStore.Proofs.Session.Conservation
import LinearStore.Proofs.Session.Determinism
import LinearStore.Proofs.Session.Execution
import LinearStore.Proofs.Session.Filling
import LinearStore.Proofs.Session.Frame
import LinearStore.Proofs.Session.History
import LinearStore.Proofs.Session.Independence
import LinearStore.Proofs.Session.Lengths
import LinearStore.Proofs.Session.Lifecycle
import LinearStore.Proofs.Session.Locality
import LinearStore.Proofs.Session.NameHistory
import LinearStore.Proofs.Session.Names
import LinearStore.Proofs.Session.Payloads
import LinearStore.Proofs.Session.Population
import LinearStore.Proofs.Session.Readback
import LinearStore.Proofs.Session.Renaming
import LinearStore.Proofs.Session.Reporting
import LinearStore.Proofs.Session.Rules
import LinearStore.Proofs.Session.Snapshot
import LinearStore.Proofs.Session.Sorted
import LinearStore.Proofs.Session.Tightening
import LinearStore.Proofs.Session.Translation
import LinearStore.Proofs.Session.Weights
import LinearStore.Proofs.SlotArray
import LinearStore.Proofs.SlotArray.Checked
import LinearStore.Proofs.SlotArray.Occupancy
import LinearStore.Proofs.SlotArray.Options
import LinearStore.Proofs.Table
import LinearStore.Proofs.Tasks.Markers
import LinearStore.Proofs.Tasks.Runner
import LinearStore.Proofs.Text.Lines
import LinearStore.Script.Basic
import LinearStore.Script.Decoding
import LinearStore.Script.Encoding
import LinearStore.Script.Step
import LinearStore.Sequence
import LinearStore.Session.Asserted
import LinearStore.Session.Basic
import LinearStore.Session.Execute
import LinearStore.Session.Run
import LinearStore.Session.Snapshot
import LinearStore.SlotArray
import LinearStore.Surface
import LinearStore.Table
import LinearStore.Tasks.Markers
import LinearStore.Tasks.Runner
import LinearStore.Text.Basic
import LinearStore.Text.Quoted
import LinearStore.Text.WordChar
