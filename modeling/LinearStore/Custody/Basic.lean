import LinearStore.LinearArray
import LinearStore.Sequence
import LinearStore.SlotArray

set_option autoImplicit false

namespace LinearStore

-- A value that cannot be copied. Two of them are alike when they carry the same `id`.
structure Tracked where
  serial : Nat
  id : UInt32
deriving DecidableEq, Repr

namespace Tracked

def alike (a b : Tracked) : Bool := a.id == b.id

def inspect (value : Tracked) : String := "Tracked(" ++ toString value.id.toNat ++ ")"

def bytes : Nat := 16

end Tracked

-- What a refused operation was given. It stays with the refusal until someone takes it back or gives
-- it up.
structure Parcel where
  arrays : List (SlotArray Tracked) := []
  sequences : List (LinearArray Tracked) := []
  values : List Tracked := []
deriving DecidableEq, Repr

def Parcel.held (parcel : Parcel) : List Tracked :=
  parcel.arrays.flatMap SlotArray.held ++ parcel.sequences.flatMap LinearArray.elements ++
    parcel.values

structure Custody where
  created : Nat
  dropped : List Tracked
  arrays : List (SlotArray Tracked)
  sequences : List (LinearArray Tracked)
  hand : List Tracked
  rejected : List (Rejected Parcel)
  frozen : List (Handle Tracked)
  storages : Nat
deriving DecidableEq, Repr

namespace Custody

def empty : Custody := ⟨0, [], [], [], [], [], [], 0⟩

def live (custody : Custody) : Nat := custody.created - custody.dropped.length

-- The elements of frozen sequences. Those of a storage with several handles count once.
def frozenElements : List (Handle Tracked) → List Tracked
  | [] => []
  | handle :: rest =>
      if rest.any handle.sharesStorage then frozenElements rest
      else handle.contents.elements ++ frozenElements rest

def held (custody : Custody) : List Tracked :=
  custody.arrays.flatMap SlotArray.held ++ custody.sequences.flatMap LinearArray.elements ++
    custody.hand ++ custody.rejected.flatMap (fun rejected => rejected.returned.held) ++
    frozenElements custody.frozen

def drop (custody : Custody) (values : List Tracked) : Custody :=
  { custody with dropped := custody.dropped ++ values }

def keep (custody : Custody) (values : List Tracked) : Custody :=
  { custody with hand := custody.hand ++ values }

def setArray (custody : Custody) (place : Nat) (array : SlotArray Tracked) : Custody :=
  { custody with arrays := custody.arrays.set place array }

def removeArray (custody : Custody) (place : Nat) : Custody :=
  { custody with arrays := custody.arrays.eraseIdx place }

def setSequence (custody : Custody) (place : Nat) (array : LinearArray Tracked) : Custody :=
  { custody with sequences := custody.sequences.set place array }

def removeSequence (custody : Custody) (place : Nat) : Custody :=
  { custody with sequences := custody.sequences.eraseIdx place }

def removeHeld (custody : Custody) (place : Nat) : Custody :=
  { custody with hand := custody.hand.eraseIdx place }

def removeRejected (custody : Custody) (place : Nat) : Custody :=
  { custody with rejected := custody.rejected.eraseIdx place }

end Custody

end LinearStore
