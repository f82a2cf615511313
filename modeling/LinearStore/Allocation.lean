import LinearStore.Fault

set_option autoImplicit false

namespace LinearStore

structure Limits where
  maxSlots : UInt64 := UInt64.ofNat (UInt64.size - 1)
deriving DecidableEq, Repr

-- What grants or refuses a block of slots, all of one size.
class Allocator where
  grants : (slotBytes length : Nat) → Bool

namespace Allocation

-- No block may have more bytes than a signed machine word can count.
def maxBytes : Nat := UInt64.size / 2 - 1

-- An empty block takes nothing, so the machine is not asked for it.
def reserve [Allocator] (slotBytes length : Nat) : Except Fault Unit :=
  if length * slotBytes > maxBytes then .error (.allocation length .beyondCapacity)
  else if length * slotBytes = 0 || Allocator.grants slotBytes length then .ok ()
  else .error (.allocation length .exhausted)

end Allocation

namespace Limits

def check (limits : Limits) (length : Nat) : Except Fault Unit :=
  if length > limits.maxSlots.toNat then
    .error (.allocation length (.overLimit limits.maxSlots.toNat))
  else .ok ()

def grant [Allocator] (limits : Limits) (slotBytes length : Nat) : Except Fault Unit :=
  match limits.check length with
  | .error fault => .error fault
  | .ok () => Allocation.reserve slotBytes length

end Limits

namespace Allocation

def addressableBytes : Nat := 1 <<< 47

instance addressSpace : Allocator :=
  ⟨fun slotBytes length => decide (length * slotBytes ≤ addressableBytes)⟩

end Allocation

end LinearStore
