import LinearStore.Contract.Calls

set_option autoImplicit false

namespace LinearStore.Surface

variable {α : Type}

def seqGet (array : LinearArray α) (index : UInt64) : Except Fault α :=
  match Call.narrow index array.length with
  | .ok index => array.get index
  | .error fault => .error fault

def seqSet (array : LinearArray α) (index : UInt64) (value : α) :
    Except (Rejected (LinearArray α × α)) (LinearArray α) :=
  match Call.narrow index array.length with
  | .ok index => array.set index value
  | .error fault => .error ⟨fault, (array, value)⟩

def seqUnleash (array : LinearArray α) : Sequence α := array.unleash

def lseqSwap (array : SlotArray α) (index : UInt64) (new : Slot α) :
    Except (Rejected (SlotArray α × Slot α)) (SlotArray α × Slot α) :=
  match Call.narrow index array.length with
  | .ok index => array.swap index new
  | .error fault => .error ⟨fault, (array, new)⟩

def lseqShare (array : SlotArray α) (index : UInt64) : Except Fault (Slot α) :=
  match Call.narrow index array.length with
  | .ok index => array.share index
  | .error fault => .error fault

end LinearStore.Surface

namespace LinearStore.SlotArray

variable {α : Type}

inductive Move (α : Type) where
  | swap (index : Nat) (new : Slot α)
  | swapLent (index : Nat) (new : Slot α)
  | externSwap (index : UInt64) (new : Slot α)
  | take (index : Nat)
  | give (index : Nat) (value : α)
deriving DecidableEq, Repr

-- The content that a move hands out, or the content that it brought and the fault. A take brings
-- nothing, and a give gets nothing.
abbrev Returned (α : Type) : Type := Except (Rejected (Slot α)) (Slot α)

def afterSwap :
    Except (Rejected (SlotArray α × Slot α)) (SlotArray α × Slot α) → Returned α × SlotArray α
  | .ok (swapped, old) => (.ok old, swapped)
  | .error rejected => (.error (rejected.map Prod.snd), rejected.returned.1)

def afterTake : Except (Rejected (SlotArray α)) (SlotArray α × α) → Returned α × SlotArray α
  | .ok (emptied, value) => (.ok (.full value), emptied)
  | .error rejected => (.error ⟨rejected.fault, .empty⟩, rejected.returned)

def afterGive :
    Except (Rejected (SlotArray α × α)) (SlotArray α) → Returned α × SlotArray α
  | .ok filled => (.ok .empty, filled)
  | .error rejected =>
      (.error (rejected.map fun returned => .full returned.2), rejected.returned.1)

def move (array : SlotArray α) : Move α → Returned α × SlotArray α
  | .swap index new => afterSwap (array.swap index new)
  | .swapLent index new => array.swapLent index new
  | .externSwap index new => afterSwap (Surface.lseqSwap array index new)
  | .take index => afterTake (array.take index)
  | .give index value => afterGive (array.give index value)

def moves (array : SlotArray α) : List (Move α) → List (Returned α) × SlotArray α
  | [] => ([], array)
  | move :: rest =>
      let turn := array.move move
      let later := turn.2.moves rest
      (turn.1 :: later.1, later.2)

end LinearStore.SlotArray

namespace LinearStore.LinearArray

variable {α : Type}

inductive Write (α : Type) where
  | set (index : Nat) (value : α)
  | externSet (index : UInt64) (value : α)
  | replace (index : Nat) (value : α)
deriving DecidableEq, Repr

-- The element that a write hands out, if it does, or the value that it brought and the fault.
abbrev Returned (α : Type) : Type := Except (Rejected α) (Option α)

def afterSet : Except (Rejected (LinearArray α × α)) (LinearArray α) → Returned α × LinearArray α
  | .ok written => (.ok none, written)
  | .error rejected => (.error (rejected.map Prod.snd), rejected.returned.1)

def afterReplace :
    Except (Rejected (LinearArray α × α)) (LinearArray α × α) → Returned α × LinearArray α
  | .ok (written, old) => (.ok (some old), written)
  | .error rejected => (.error (rejected.map Prod.snd), rejected.returned.1)

def write (array : LinearArray α) : Write α → Returned α × LinearArray α
  | .set index value => afterSet (array.set index value)
  | .externSet index value => afterSet (Surface.seqSet array index value)
  | .replace index value => afterReplace (array.replace index value)

def writes (array : LinearArray α) : List (Write α) → List (Returned α) × LinearArray α
  | [] => ([], array)
  | write :: rest =>
      let turn := array.write write
      let later := turn.2.writes rest
      (turn.1 :: later.1, later.2)

end LinearStore.LinearArray
