import LinearStore.Contract

set_option autoImplicit false

namespace LinearStore

-- What a caller holds: an array of either kind, if any, and what its providers remember.
structure Registers (σ α : Type) where
  seq : Option (LinearArray α)
  lseq : Option (SlotArray α)
  memory : σ

-- Generated code allocates and frees by the same calls. Its writes narrow their index before they are
-- made.
inductive Call (σ α : Type) where
  | alloc (length : UInt64) (provider : Provider σ α)
  | allocWith (limits : Limits) (length : UInt64) (provider : Provider σ α)
  | allocInit (length : UInt64) (value : α)
  | set (index : UInt64) (value : α)
  | externSet (index : UInt64) (value : α)
  | replace (index : UInt64) (value : α)
  | free
  | allocRaw (length : UInt64)
  | allocRawWith (limits : Limits) (length : UInt64)
  | swap (index : UInt64) (new : Slot α)
  | swapLent (index : UInt64) (new : Slot α)
  | externSwap (index : UInt64) (new : Slot α)
  | take (index : UInt64)
  | give (index : UInt64) (value : α)
  | freeChecked
  | freeRaw

inductive Reply (α : Type) where
  | done
  | content (slot : Slot α)
  | fault (fault : Fault)
  | missing

namespace Call

-- An index of generated code as an index of the machine, which has words of 64 bits.
def narrow (index : UInt64) (length : Nat) : Except Fault Nat :=
  if index.toNat < UInt64.size then .ok index.toNat
  else .error (.indexOutOfRange index.toNat length)

end Call

namespace Registers

variable {σ α : Type}

def keepSeq (registers : Registers σ α) :
    Except Fault (LinearArray α) × σ → Registers σ α × Reply α
  | (.ok array, memory) => ({ registers with seq := some array, memory := memory }, .done)
  | (.error fault, memory) => ({ registers with memory := memory }, .fault fault)

def keepLseq (registers : Registers σ α) : Except Fault (SlotArray α) → Registers σ α × Reply α
  | .ok array => ({ registers with lseq := some array }, .done)
  | .error fault => (registers, .fault fault)

def afterSet (registers : Registers σ α) :
    Except (Rejected (LinearArray α × α)) (LinearArray α) → Registers σ α × Reply α
  | .ok array => ({ registers with seq := some array }, .done)
  | .error rejected =>
      ({ registers with seq := some rejected.returned.1 }, .fault rejected.fault)

def afterReplace (registers : Registers σ α) :
    Except (Rejected (LinearArray α × α)) (LinearArray α × α) → Registers σ α × Reply α
  | .ok (array, old) => ({ registers with seq := some array }, .content (.full old))
  | .error rejected =>
      ({ registers with seq := some rejected.returned.1 }, .fault rejected.fault)

def afterSwap (registers : Registers σ α) :
    Except (Rejected (SlotArray α × Slot α)) (SlotArray α × Slot α) → Registers σ α × Reply α
  | .ok (array, old) => ({ registers with lseq := some array }, .content old)
  | .error rejected =>
      ({ registers with lseq := some rejected.returned.1 }, .fault rejected.fault)

def afterSwapLent (registers : Registers σ α) :
    Except (Rejected (Slot α)) (Slot α) × SlotArray α → Registers σ α × Reply α
  | (.ok old, array) => ({ registers with lseq := some array }, .content old)
  | (.error rejected, array) => ({ registers with lseq := some array }, .fault rejected.fault)

def afterTake (registers : Registers σ α) :
    Except (Rejected (SlotArray α)) (SlotArray α × α) → Registers σ α × Reply α
  | .ok (array, value) => ({ registers with lseq := some array }, .content (.full value))
  | .error rejected => ({ registers with lseq := some rejected.returned }, .fault rejected.fault)

def afterGive (registers : Registers σ α) :
    Except (Rejected (SlotArray α × α)) (SlotArray α) → Registers σ α × Reply α
  | .ok array => ({ registers with lseq := some array }, .done)
  | .error rejected =>
      ({ registers with lseq := some rejected.returned.1 }, .fault rejected.fault)

def afterFree (registers : Registers σ α) :
    Except (Rejected (SlotArray α)) Unit → Registers σ α × Reply α
  | .ok () => ({ registers with lseq := none }, .done)
  | .error rejected => ({ registers with lseq := some rejected.returned }, .fault rejected.fault)

def onSeq (registers : Registers σ α) (call : LinearArray α → Registers σ α × Reply α) :
    Registers σ α × Reply α :=
  match registers.seq with
  | some array => call array
  | none => (registers, .missing)

def onLseq (registers : Registers σ α) (call : SlotArray α → Registers σ α × Reply α) :
    Registers σ α × Reply α :=
  match registers.lseq with
  | some array => call array
  | none => (registers, .missing)

section

variable [Allocator] (elementBytes slotBytes : Nat)

def perform (registers : Registers σ α) : Call σ α → Registers σ α × Reply α
  | .alloc length provider =>
      registers.keepSeq
        (LinearArray.allocate {} elementBytes provider length.toNat registers.memory)
  | .allocWith limits length provider =>
      registers.keepSeq
        (LinearArray.allocate limits elementBytes provider length.toNat registers.memory)
  | .allocInit length value =>
      registers.keepSeq
        (LinearArray.allocateInit elementBytes length.toNat value, registers.memory)
  | .set index value =>
      registers.onSeq fun array => registers.afterSet (array.set index.toNat value)
  | .externSet index value =>
      registers.onSeq fun array =>
        match Call.narrow index array.length with
        | .ok index => registers.afterSet (array.set index value)
        | .error fault => registers.afterSet (.error ⟨fault, (array, value)⟩)
  | .replace index value =>
      registers.onSeq fun array => registers.afterReplace (array.replace index.toNat value)
  | .free => registers.onSeq fun _ => ({ registers with seq := none }, .done)
  | .allocRaw length => registers.keepLseq (SlotArray.allocate {} slotBytes length.toNat)
  | .allocRawWith limits length =>
      registers.keepLseq (SlotArray.allocate limits slotBytes length.toNat)
  | .swap index new =>
      registers.onLseq fun array => registers.afterSwap (array.swap index.toNat new)
  | .swapLent index new =>
      registers.onLseq fun array => registers.afterSwapLent (array.swapLent index.toNat new)
  | .externSwap index new =>
      registers.onLseq fun array =>
        match Call.narrow index array.length with
        | .ok index => registers.afterSwap (array.swap index new)
        | .error fault => registers.afterSwap (.error ⟨fault, (array, new)⟩)
  | .take index => registers.onLseq fun array => registers.afterTake (array.take index.toNat)
  | .give index value =>
      registers.onLseq fun array => registers.afterGive (array.give index.toNat value)
  | .freeChecked => registers.onLseq fun array => registers.afterFree array.free
  | .freeRaw => registers.onLseq fun _ => ({ registers with lseq := none }, .done)

def replies (registers : Registers σ α) : List (Call σ α) → List (Reply α) × Registers σ α
  | [] => ([], registers)
  | call :: calls =>
      let turn := registers.perform elementBytes slotBytes call
      let rest := turn.1.replies calls
      (turn.2 :: rest.1, rest.2)

end

end Registers

namespace Registers.Asserted

open LinearStore.Asserted

variable {σ α : Type}

def onSeq (registers : Registers σ α)
    (call : LinearArray α → Asserted (Registers σ α × Reply α)) :
    Asserted (Registers σ α × Reply α) :=
  match registers.seq with
  | some array => call array
  | none => .ok (registers, .missing)

def onLseq (registers : Registers σ α) (call : SlotArray α → Asserted (Registers σ α × Reply α)) :
    Asserted (Registers σ α × Reply α) :=
  match registers.lseq with
  | some array => call array
  | none => .ok (registers, .missing)

variable [Allocator] (elementBytes slotBytes : Nat)

def perform (registers : Registers σ α) (call : Call σ α) : Asserted (Registers σ α × Reply α) :=
  match call with
  | .alloc length provider => do
      let made ← allocate {} elementBytes provider length.toNat registers.memory
      return registers.keepSeq made
  | .allocWith limits length provider => do
      let made ← allocate limits elementBytes provider length.toNat registers.memory
      return registers.keepSeq made
  | .allocInit length value => do
      let made ← allocateInit elementBytes length.toNat value
      return registers.keepSeq (made, registers.memory)
  | .set index value =>
      onSeq registers fun array => do
        let written ← set array index.toNat value
        return registers.afterSet written
  | .externSet index value =>
      onSeq registers fun array =>
        match Call.narrow index array.length with
        | .ok index => do
            let written ← set array index value
            return registers.afterSet written
        | .error fault => .ok (registers.afterSet (.error ⟨fault, (array, value)⟩))
  | .replace index value =>
      onSeq registers fun array => do
        let written ← replace array index.toNat value
        return registers.afterReplace written
  | .allocRaw length => do
      let made ← allocateSlots {} slotBytes length.toNat
      return registers.keepLseq made
  | .allocRawWith limits length => do
      let made ← allocateSlots limits slotBytes length.toNat
      return registers.keepLseq made
  | .swap index new =>
      onLseq registers fun array => do
        let swapped ← swap array index.toNat new
        return registers.afterSwap swapped
  | .swapLent index new =>
      onLseq registers fun array => do
        let turn ← swapLent array index.toNat new
        return registers.afterSwapLent turn
  | .externSwap index new =>
      onLseq registers fun array =>
        match Call.narrow index array.length with
        | .ok index => do
            let swapped ← swap array index new
            return registers.afterSwap swapped
        | .error fault => .ok (registers.afterSwap (.error ⟨fault, (array, new)⟩))
  | .take index =>
      onLseq registers fun array => do
        let taken ← take array index.toNat
        return registers.afterTake taken
  | .give index value =>
      onLseq registers fun array => do
        let given ← give array index.toNat value
        return registers.afterGive given
  -- The ways to free an array reach none of its cells and check no contract.
  | .free | .freeChecked | .freeRaw => .ok (registers.perform elementBytes slotBytes call)

def replies (registers : Registers σ α) :
    List (Call σ α) → Asserted (List (Reply α) × Registers σ α)
  | [] => .ok ([], registers)
  | call :: calls => do
      let turn ← perform elementBytes slotBytes registers call
      let rest ← replies turn.1 calls
      return (turn.2 :: rest.1, rest.2)

end Registers.Asserted

end LinearStore
