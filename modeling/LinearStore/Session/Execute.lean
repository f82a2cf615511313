import LinearStore.Event
import LinearStore.Session.Basic

set_option autoImplicit false

namespace LinearStore

structure Execution (α : Type) where
  events : List Event
  outcome : Except Fault (Option (Answer α))
  session : Session α

namespace Execution

variable {α : Type}

def refuse (fault : Fault) (session : Session α) : Execution α := ⟨[], .error fault, session⟩

def answer (answer : Answer α) (session : Session α) : Execution α :=
  ⟨[], .ok (some answer), session⟩

def done (session : Session α) : Execution α := ⟨[], .ok none, session⟩

def logging (events : List Event) (execution : Execution α) : Execution α :=
  { execution with events := events ++ execution.events }

-- Runs the rest of a step with a value, or refuses for the fault in its place and leaves the given
-- session.
def withValue {γ : Type} (session : Session α) (value : Except Fault γ)
    (rest : γ → Execution α) : Execution α :=
  match value with
  | .error fault => refuse fault session
  | .ok found => rest found

def result (execution : Execution α) : Except Fault (Option (Answer α) × Session α) :=
  execution.outcome.map fun answer => (answer, execution.session)

end Execution

namespace Session

open Execution

variable {α : Type}

def performAlloc [Allocator] (session : Session α) (name : String) (count : Nat) : Execution α :=
  let made := (LinearArray.allocate session.config.limits payloadBytes
    (.constant session.config.defaultValue) count ()).1
  (withValue session made fun array => done (session.bind name (.seq array))).logging
    (LinearArray.allocationEvents made)

def performAllocInit [Allocator] (session : Session α) (name : String) (count : Nat) (value : α) :
    Execution α :=
  withValue session (session.config.limits.check count) fun _ =>
    withValue session (LinearArray.allocateInit payloadBytes count value) fun array =>
      done (session.bind name (.seq array))

def performSet (session : Session α) (name : String) (index : Nat) (value : α) : Execution α :=
  withValue session (session.takeSeq name) fun (array, rest) =>
    let written := array.set index value
    (match written with
      | .ok written => done (rest.bind name (.seq written))
      | .error rejected =>
          refuse rejected.fault (rest.bind name (.seq rejected.returned.1))).logging
      (LinearArray.writeEvents written)

def performFree (session : Session α) (op : Op) (name : String) : Execution α :=
  withValue session (session.takeSeq name) fun (array, rest) =>
    (done (rest.consume name op)).logging array.freeEvents

def performUnleash (session : Session α) (op : Op) (name into : String) : Execution α :=
  withValue session (session.takeSeq name) fun (array, rest) =>
    (answer (.elements array.unleash.elements)
      ((rest.consume name op).bind into (.sequence array.unleash))).logging array.unleashEvents

def performSelect (session : Session α) (name : String) (index : Nat) : Execution α :=
  withValue session (session.sequence name) fun contents =>
    match contents.select? index with
    | some value => answer (.element value) session
    | none => refuse (.indexOutOfRange index contents.length) session

def performUnwrap (session : Session α) (op : Op) (name : String) : Execution α :=
  withValue session (session.maybe name) fun slot =>
    if slot.isEmpty then refuse (.contractViolation .unwrapEmpty) session
    else
      withValue session (session.takeMaybe name) fun (slot, rest) =>
        withValue rest slot.unwrap fun value => answer (.element value) (rest.consume name op)

def performDiscard (session : Session α) (op : Op) (name : String) : Execution α :=
  withValue session (session.takeMaybe name) fun (_, rest) => done (rest.consume name op)

def performAllocRaw [Allocator] (session : Session α) (name : String) (count : Nat) :
    Execution α :=
  let made := SlotArray.allocate session.config.limits payloadBytes count
  (withValue session made fun array => done (session.bind name (.lseq array))).logging
    (SlotArray.allocationEvents made)

def performSwap (session : Session α) (op : Op) (name : String) (index : Nat)
    (source into : String) : Execution α :=
  withValue session (session.takeLseq name) fun (array, rest) =>
    withValue (rest.bind name (.lseq array)) (rest.takeMaybe source) fun (slot, rest) =>
      (match array.swap index slot with
        | .ok (swapped, old) =>
            answer (.slot old)
              (((rest.bind name (.lseq swapped)).consume source op).bind into (.maybe old))
        | .error rejected =>
            refuse rejected.fault
              ((rest.bind name (.lseq rejected.returned.1)).bind source
                (.maybe rejected.returned.2))).logging
        (array.swapEvents index)

def performTake (session : Session α) (name : String) (index : Nat) : Execution α :=
  withValue session (session.takeLseq name) fun (array, rest) =>
    (match array.take index with
      | .ok (emptied, value) => answer (.element value) (rest.bind name (.lseq emptied))
      | .error rejected =>
          refuse rejected.fault (rest.bind name (.lseq rejected.returned))).logging
      (array.swapEvents index)

def performPut (session : Session α) (name : String) (index : Nat) (value : α) : Execution α :=
  withValue session (session.takeLseq name) fun (array, rest) =>
    match array.give index value with
    | .ok filled => done (rest.bind name (.lseq filled))
    | .error rejected => refuse rejected.fault (rest.bind name (.lseq rejected.returned.1))

def performRelease (session : Session α) (op : Op) (name : String) : Execution α :=
  withValue session (session.takeLseq name) fun (array, rest) =>
    (done (rest.consume name op)).logging array.releaseEvents

def performCheckedFree (session : Session α) (op : Op) (name : String) : Execution α :=
  withValue session (session.takeLseq name) fun (array, rest) =>
    (match array.free with
      | .ok () => done (rest.consume name op)
      | .error rejected =>
          refuse rejected.fault (rest.bind name (.lseq rejected.returned))).logging
      array.freeEvents

def perform [Allocator] (session : Session α) (step : Step α) : Execution α :=
  match step with
  | .alloc name count => session.performAlloc name count.toNat
  | .allocInit name count value => session.performAllocInit name count.toNat value
  | .get name index =>
      withValue session (session.seq name) fun array =>
        withValue session (array.get index.toNat) fun value => answer (.element value) session
  | .set name index value => session.performSet name index.toNat value
  | .length name =>
      withValue session (session.seq name) fun array => answer (.count array.length) session
  | .free name => session.performFree step.op name
  | .unleash name into => session.performUnleash step.op name into
  | .select name index => session.performSelect name index.toNat
  | .give name value => done (session.bind name (.maybe (.full value)))
  | .empty name => done (session.bind name (.maybe .empty))
  | .peek name =>
      withValue session (session.maybe name) fun slot =>
        withValue session slot.peek fun value => answer (.element value) session
  | .unwrap name => session.performUnwrap step.op name
  | .discard name => session.performDiscard step.op name
  | .allocRaw name count => session.performAllocRaw name count.toNat
  | .lengthRaw name =>
      withValue session (session.lseq name) fun array => answer (.count array.length) session
  | .swapRaw name index source into =>
      session.performSwap step.op name index.toNat source into
  | .shareRaw name index =>
      withValue session (session.lseq name) fun array =>
        withValue session (array.share index.toNat) fun slot => answer (.slot slot) session
  | .take name index => session.performTake name index.toNat
  | .put name index value => session.performPut name index.toNat value
  | .freeRaw name =>
      if session.config.strictFree then session.performCheckedFree step.op name
      else session.performRelease step.op name
  | .freeLseq name => session.performCheckedFree step.op name

def execute [Allocator] (session : Session α) (step : Step α) : Execution α :=
  match step.validate session.state with
  | .error violation => refuse (.contractViolation violation) session
  | .ok () => (session.perform step).logging [.execute step.op]

def after [Allocator] (session : Session α) (step : Step α) : Session α :=
  (session.execute step).session

end Session

end LinearStore
