import LinearStore.Fault

set_option autoImplicit false

namespace LinearStore

inductive Slot (α : Type) where
  | full (value : α)
  | empty
deriving DecidableEq, Repr

namespace Slot

variable {α β : Type}

def isFull : Slot α → Bool
  | full _ => true
  | empty => false

def isEmpty (slot : Slot α) : Bool := !slot.isFull

def peek : Slot α → Except Fault α
  | full value => .ok value
  | empty => .error (.contractViolation .peekEmpty)

def unwrap : Slot α → Except Fault α
  | full value => .ok value
  | empty => .error (.contractViolation .unwrapEmpty)

-- Stores new content and hands out the old: first what was there, then what is there now.
def replace (slot new : Slot α) : Slot α × Slot α := (slot, new)

def take (slot : Slot α) : Slot α × Slot α := slot.replace empty

def toOption : Slot α → Option α
  | full value => some value
  | empty => none

def ofOption : Option α → Slot α
  | some value => full value
  | none => empty

def map (f : α → β) : Slot α → Slot β
  | full value => full (f value)
  | empty => empty

def toList : Slot α → List α
  | full value => [value]
  | empty => []

def inspect (text : α → String) : Slot α → String
  | full value => "Full(" ++ text value ++ ")"
  | empty => "Empty"

end Slot

namespace Cells

variable {α : Type}

def exchange (cells : List α) (index : Nat) (new : α) : Except α α × List α :=
  if inside : index < cells.length then (.ok cells[index], cells.set index new)
  else (.error new, cells)

def swap (cells : List (Option α)) (index : Nat) (new : Option α) :
    Except (Option α) (Option α) × List (Option α) :=
  exchange cells index new

def replace (cells : List α) (index : Nat) (value : α) : Except α α × List α :=
  exchange cells index value

end Cells

end LinearStore
