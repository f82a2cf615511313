import LinearStore.Custody.Basic

set_option autoImplicit false

namespace LinearStore

namespace Custody

inductive Action where
  | track (id : UInt32)
  | allocateArray (limits : Limits) (length : Nat)
  -- Takes the array and hands it back, also with a refusal; `swap` only borrows it.
  | swapRaw (array index : Nat) (value : Option Nat)
  | swap (array index : Nat) (value : Option Nat)
  | give (array index value : Nat)
  | take (array index : Nat)
  | free (array : Nat)
  | release (array : Nat)
  | allocateSequence (limits : Limits) (first : UInt32) (length : Nat)
  | allocateListed (limits : Limits) (ids : List UInt32)
  | set (sequence index value : Nat)
  | replace (sequence index value : Nat)
  | freeSequence (sequence : Nat)
  | unleash (sequence : Nat)
  | shareFrozen (handle : Nat)
  | dropFrozen (handle : Nat)
  | dropHeld (value : Nat)
  | reclaim (rejected : Nat)
  -- Keeps only the fault of a refusal.
  | giveUp (rejected : Nat)
deriving DecidableEq, Repr

inductive Answer where
  | done
  | content (value : Option Tracked)
  | values (values : List Tracked)
  | fault (fault : Fault)
  | missing
deriving DecidableEq, Repr

-- Creates a value at each call, under an id from a source that may remember what it has handed out.
def tracking {σ : Type} (ids : Provider σ UInt32) : Provider (Nat × σ) Tracked := fun next =>
  let drawn := ids next.2
  (⟨next.1, drawn.1⟩, (next.1 + 1, drawn.2))

def counting : Provider UInt32 UInt32 := fun next => (next, next + 1)

def listed : Provider (List UInt32) UInt32 := fun ids => (ids.headD 0, ids.tail)

def track (custody : Custody) (id : UInt32) : Custody :=
  { custody with created := custody.created + 1 }.keep [⟨custody.created, id⟩]

def allocateArray [Allocator] (custody : Custody) (limits : Limits) (length : Nat) :
    Custody × Answer :=
  match SlotArray.allocate limits Tracked.bytes length with
  | .ok array => ({ custody with arrays := custody.arrays ++ [array] }, .done)
  | .error fault => (custody, .fault fault)

def allocateSequence [Allocator] {σ : Type} (custody : Custody) (limits : Limits)
    (ids : Provider σ UInt32) (state : σ) (length : Nat) : Custody × Answer :=
  match LinearArray.allocate limits Tracked.bytes (tracking ids) length (custody.created, state) with
  | (.ok array, next) =>
      ({ custody with created := next.1, sequences := custody.sequences ++ [array] }, .done)
  | (.error fault, _) => (custody, .fault fault)

def refuse (custody : Custody) (rejected : Rejected Parcel) : Custody × Answer :=
  ({ custody with rejected := custody.rejected ++ [rejected] }, .fault rejected.fault)

def bring (custody : Custody) : Option Nat → Option (Slot Tracked × Custody)
  | none => some (.empty, custody)
  | some position =>
      custody.hand[position]?.map fun value => (.full value, custody.removeHeld position)

inductive Access where
  | borrowed
  | taken
deriving DecidableEq, Repr

def swap (custody : Custody) (access : Access) (place index : Nat) (value : Option Nat) :
    Custody × Answer :=
  match custody.arrays[place]?, custody.bring value with
  | some array, some (slot, rest) =>
      match array.swap index slot, access with
      | .ok (array, old), _ =>
          ((rest.setArray place array).keep old.toList, .content old.toOption)
      | .error rejected, .borrowed =>
          rest.refuse (rejected.map fun returned => { values := returned.2.toList })
      | .error rejected, .taken =>
          (rest.removeArray place).refuse
            (rejected.map fun returned => { arrays := [returned.1], values := returned.2.toList })
  | _, _ => (custody, .missing)

def give (custody : Custody) (place index position : Nat) : Custody × Answer :=
  match custody.arrays[place]?, custody.hand[position]? with
  | some array, some value =>
      let rest := custody.removeHeld position
      match array.give index value with
      | .ok array => (rest.setArray place array, .done)
      | .error rejected =>
          (rest.removeArray place).refuse
            (rejected.map fun returned => { arrays := [returned.1], values := [returned.2] })
  | _, _ => (custody, .missing)

def take (custody : Custody) (place index : Nat) : Custody × Answer :=
  match custody.arrays[place]? with
  | none => (custody, .missing)
  | some array =>
      match array.take index with
      | .ok (array, value) => ((custody.setArray place array).keep [value], .content (some value))
      | .error rejected =>
          (custody.removeArray place).refuse (rejected.map fun array => { arrays := [array] })

def release (custody : Custody) (place : Nat) : Custody × Answer :=
  match custody.arrays[place]? with
  | none => (custody, .missing)
  | some array => ((custody.removeArray place).drop array.held, .done)

def free (custody : Custody) (place : Nat) : Custody × Answer :=
  match custody.arrays[place]? with
  | none => (custody, .missing)
  | some array =>
      match array.free with
      | .ok () => custody.release place
      | .error rejected =>
          (custody.removeArray place).refuse (rejected.map fun array => { arrays := [array] })

inductive Displaced where
  | dropped
  | kept
deriving DecidableEq, Repr

def write (custody : Custody) (place index position : Nat) (displaced : Displaced) :
    Custody × Answer :=
  match custody.sequences[place]?, custody.hand[position]? with
  | some array, some value =>
      let rest := custody.removeHeld position
      match array.replace index value, displaced with
      | .ok (array, old), .dropped => ((rest.setSequence place array).drop [old], .content none)
      | .ok (array, old), .kept => ((rest.setSequence place array).keep [old], .content (some old))
      | .error rejected, _ =>
          (rest.removeSequence place).refuse
            (rejected.map fun returned => { sequences := [returned.1], values := [returned.2] })
  | _, _ => (custody, .missing)

def freeSequence (custody : Custody) (place : Nat) : Custody × Answer :=
  match custody.sequences[place]? with
  | none => (custody, .missing)
  | some array => ((custody.removeSequence place).drop array.elements, .done)

def unleash (custody : Custody) (place : Nat) : Custody × Answer :=
  match custody.sequences[place]? with
  | none => (custody, .missing)
  | some array =>
      ({ custody.removeSequence place with
          frozen := custody.frozen ++ [⟨custody.storages, array.unleash⟩]
          storages := custody.storages + 1 },
        .values array.unleash.elements)

def shareFrozen (custody : Custody) (position : Nat) : Custody × Answer :=
  match custody.frozen[position]? with
  | none => (custody, .missing)
  | some handle => ({ custody with frozen := custody.frozen ++ [handle] }, .done)

def dropFrozen (custody : Custody) (position : Nat) : Custody × Answer :=
  match custody.frozen[position]? with
  | none => (custody, .missing)
  | some handle =>
      let rest := { custody with frozen := custody.frozen.eraseIdx position }
      let elements := handle.contents.elements
      (if rest.frozen.any handle.sharesStorage then rest else rest.drop elements,
        .values elements)

def dropHeld (custody : Custody) (position : Nat) : Custody × Answer :=
  match custody.hand[position]? with
  | none => (custody, .missing)
  | some value => ((custody.removeHeld position).drop [value], .content (some value))

def unpack (custody : Custody) (parcel : Parcel) : Custody :=
  { custody with
    arrays := custody.arrays ++ parcel.arrays
    sequences := custody.sequences ++ parcel.sequences
    hand := custody.hand ++ parcel.values }

def reclaim (custody : Custody) (position : Nat) : Custody × Answer :=
  match custody.rejected[position]? with
  | none => (custody, .missing)
  | some rejected => ((custody.removeRejected position).unpack rejected.returned, .done)

def giveUp (custody : Custody) (position : Nat) : Custody × Answer :=
  match custody.rejected[position]? with
  | none => (custody, .missing)
  | some rejected =>
      ((custody.removeRejected position).drop rejected.returned.held, .fault rejected.fault)

def perform [Allocator] (custody : Custody) : Action → Custody × Answer
  | .track id => (custody.track id, .done)
  | .allocateArray limits length => custody.allocateArray limits length
  | .swapRaw array index value => custody.swap .taken array index value
  | .swap array index value => custody.swap .borrowed array index value
  | .give array index value => custody.give array index value
  | .take array index => custody.take array index
  | .free array => custody.free array
  | .release array => custody.release array
  | .allocateSequence limits first length => custody.allocateSequence limits counting first length
  | .allocateListed limits ids => custody.allocateSequence limits listed ids ids.length
  | .set sequence index value => custody.write sequence index value .dropped
  | .replace sequence index value => custody.write sequence index value .kept
  | .freeSequence sequence => custody.freeSequence sequence
  | .unleash sequence => custody.unleash sequence
  | .shareFrozen handle => custody.shareFrozen handle
  | .dropFrozen handle => custody.dropFrozen handle
  | .dropHeld value => custody.dropHeld value
  | .reclaim rejected => custody.reclaim rejected
  | .giveUp rejected => custody.giveUp rejected

def after [Allocator] (custody : Custody) (actions : List Action) : Custody :=
  actions.foldl (fun custody action => (custody.perform action).1) custody

-- Performs an action for a caller who takes back at once whatever is refused.
def apply [Allocator] (custody : Custody) (action : Action) : Custody × Answer :=
  let turn := custody.perform action
  (turn.1.after (List.replicate turn.1.rejected.length (.reclaim 0)), turn.2)

end Custody

end LinearStore
