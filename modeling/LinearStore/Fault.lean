import LinearStore.Op
import LinearStore.Text.Quoted

set_option autoImplicit false

namespace LinearStore

inductive Refusal where
  | overLimit (limit : Nat)
  | beyondCapacity
  | exhausted
deriving DecidableEq, Repr

namespace Refusal

def message : Refusal → String
  | overLimit limit => s!"exceeds configured limit of {limit} slots"
  | beyondCapacity =>
      "memory allocation failed because the computed capacity exceeded the collection's maximum"
  | exhausted => "memory allocation failed because the memory allocator returned an error"

end Refusal

inductive Violation where
  | peekEmpty
  | unwrapEmpty
  | slotOccupied (index : Nat)
  | slotEmpty (index : Nat)
  | freeWithOccupiedSlots (occupied : Nat)
  | useAfterConsume (name : String) (consumedBy : Op)
  | unknownBinding (name : String)
  | kindMismatch (name : String) (expected found : Kind)
  | shadowed (name : String) (kind : Kind)
deriving DecidableEq, Repr

namespace Violation

def message : Violation → String
  | peekEmpty => "peek on an empty maybe"
  | unwrapEmpty => "unwrap on an empty maybe"
  | slotOccupied index => s!"slot {index} is already occupied"
  | slotEmpty index => s!"slot {index} is empty"
  | freeWithOccupiedSlots occupied => s!"free of an lseq with {occupied} occupied slot(s)"
  | useAfterConsume name op =>
      "'" ++ name ++ "' was consumed by " ++ op.text ++ " and cannot be used again"
  | unknownBinding name => "no binding named '" ++ name ++ "'"
  | kindMismatch name expected found =>
      "'" ++ name ++ "' is a " ++ found.text ++ ", expected a " ++ expected.text
  | shadowed name kind => "'" ++ name ++ "' still holds a live " ++ kind.text

def isNameLevel : Violation → Bool
  | useAfterConsume .. | unknownBinding .. | kindMismatch .. | shadowed .. => true
  | _ => false

end Violation

inductive Fault where
  | indexOutOfRange (index length : Nat)
  | allocation (requested : Nat) (reason : Refusal)
  | contractViolation (violation : Violation)
deriving DecidableEq, Repr

namespace Fault

def message : Fault → String
  | indexOutOfRange index length => s!"index {index} out of range for length {length}"
  | allocation requested reason => s!"cannot allocate {requested} slots: " ++ reason.message
  | contractViolation violation => "contract violation: " ++ violation.message

def isContractViolation : Fault → Bool
  | contractViolation _ => true
  | _ => false

def isNameLevel : Fault → Bool
  | contractViolation violation => violation.isNameLevel
  | _ => false

end Fault

-- A refused consuming operation, with everything that was passed to it.
structure Rejected (ρ : Type) where
  fault : Fault
  returned : ρ
deriving DecidableEq, Repr

namespace Rejected

def map {ρ τ : Type} (f : ρ → τ) (rejected : Rejected ρ) : Rejected τ :=
  ⟨rejected.fault, f rejected.returned⟩

def message {ρ : Type} (rejected : Rejected ρ) : String := "rejected: " ++ rejected.fault.message

end Rejected

end LinearStore
