import LinearStore.Fault
import LinearStore.LinearArray
import LinearStore.SlotArray

set_option autoImplicit false

namespace LinearStore

inductive Level where
  | error
  | warn
  | info
  | debug
  | trace
deriving DecidableEq, Repr

namespace Level

def text : Level → String
  | error => "ERROR"
  | warn => "WARN"
  | info => "INFO"
  | debug => "DEBUG"
  | trace => "TRACE"

def detail : Level → Nat
  | error => 1
  | warn => 2
  | info => 3
  | debug => 4
  | trace => 5

end Level

-- A value in a log line. A word stands in quotes where values are quoted, a display never.
inductive FieldValue where
  | number (value : Nat)
  | word (value : String)
  | display (value : String)
deriving DecidableEq, Repr

structure Record where
  level : Level
  origin : String
  message : String
  fields : List (String × FieldValue)
deriving DecidableEq, Repr

inductive Event where
  | seqAllocated (length : Nat)
  | seqFreed (length : Nat)
  | seqUnleashed (length : Nat)
  | seqWriteRejected (fault : Fault)
  | lseqAllocated (length : Nat)
  | lseqSwapRejected (fault : Fault)
  | lseqDiscarding (occupied length : Nat)
  | lseqFreed (length : Nat)
  | execute (op : Op)
  | stepFailed (step : Nat) (op : Op) (fault : Fault)
deriving DecidableEq, Repr

namespace Event

def seqOrigin : String := "linear_extern::seq"

def lseqOrigin : String := "linear_extern::lseq"

def sessionOrigin : String := "linear_extern::session"

def record : Event → Record
  | seqAllocated length => ⟨.trace, seqOrigin, "seq_alloc", [("length", .number length)]⟩
  | seqFreed length => ⟨.trace, seqOrigin, "seq_free", [("length", .number length)]⟩
  | seqUnleashed length => ⟨.trace, seqOrigin, "seq_unleash", [("length", .number length)]⟩
  | seqWriteRejected fault =>
      ⟨.debug, seqOrigin, "seq_set rejected", [("error", .display fault.message)]⟩
  | lseqAllocated length => ⟨.trace, lseqOrigin, "lseq_alloc_raw", [("length", .number length)]⟩
  | lseqSwapRejected fault =>
      ⟨.debug, lseqOrigin, "lseq_swap_raw rejected", [("error", .display fault.message)]⟩
  | lseqDiscarding occupied length =>
      ⟨.warn, lseqOrigin, "lseq_free_raw discarding occupied slots",
        [("occupied", .number occupied), ("length", .number length)]⟩
  | lseqFreed length => ⟨.trace, lseqOrigin, "lseq_free_raw", [("length", .number length)]⟩
  | execute op => ⟨.debug, sessionOrigin, "execute", [("op", .word op.text)]⟩
  | stepFailed step op fault =>
      ⟨.debug, sessionOrigin, "step failed",
        [("step", .number step), ("op", .word op.text), ("error", .display fault.message)]⟩

end Event

variable {α ρ β : Type}

namespace LinearArray

def allocationEvents : Except Fault (LinearArray α) → List Event
  | .ok array => [.seqAllocated array.length]
  | .error _ => []

def writeEvents : Except (Rejected ρ) β → List Event
  | .ok _ => []
  | .error rejected => [.seqWriteRejected rejected.fault]

def freeEvents (array : LinearArray α) : List Event := [.seqFreed array.length]

def unleashEvents (array : LinearArray α) : List Event := [.seqUnleashed array.length]

end LinearArray

namespace SlotArray

def allocationEvents : Except Fault (SlotArray α) → List Event
  | .ok array => [.lseqAllocated array.length]
  | .error _ => []

def swapEvents (array : SlotArray α) (index : Nat) : List Event :=
  if index < array.length then [] else [.lseqSwapRejected (array.outOfRange index)]

def releaseEvents (array : SlotArray α) : List Event :=
  match array.fullCount with
  | 0 => [.lseqFreed array.length]
  | occupied + 1 => [.lseqDiscarding (occupied + 1) array.length, .lseqFreed array.length]

def freeEvents (array : SlotArray α) : List Event :=
  match array.free with
  | .ok () => array.releaseEvents
  | .error _ => []

end SlotArray

end LinearStore
