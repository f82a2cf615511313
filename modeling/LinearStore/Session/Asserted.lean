import LinearStore.Contract
import LinearStore.Session.Snapshot

set_option autoImplicit false

namespace LinearStore

namespace Session.Asserted

open Execution

variable {α : Type}

def withValue {γ : Type} (session : Session α) (value : Except Fault γ)
    (rest : γ → Asserted (Execution α)) : Asserted (Execution α) :=
  match value with
  | .error fault => .ok (refuse fault session)
  | .ok found => rest found

def performAlloc [Allocator] (session : Session α) (name : String) (count : Nat) :
    Asserted (Execution α) := do
  let (made, _) ← Asserted.allocate session.config.limits payloadBytes
    (.constant session.config.defaultValue) count ()
  return (Execution.withValue session made fun array => done (session.bind name (.seq array))).logging
    (LinearArray.allocationEvents made)

def performAllocInit [Allocator] (session : Session α) (name : String) (count : Nat) (value : α) :
    Asserted (Execution α) :=
  withValue session (session.config.limits.check count) fun _ => do
    let made ← Asserted.allocateInit payloadBytes count value
    return Execution.withValue session made fun array => done (session.bind name (.seq array))

def performSet (session : Session α) (name : String) (index : Nat) (value : α) :
    Asserted (Execution α) :=
  withValue session (session.takeSeq name) fun (array, rest) => do
    let written ← Asserted.set array index value
    return (match written with
      | .ok written => done (rest.bind name (.seq written))
      | .error rejected =>
          refuse rejected.fault (rest.bind name (.seq rejected.returned.1))).logging
      (LinearArray.writeEvents written)

def performAllocRaw [Allocator] (session : Session α) (name : String) (count : Nat) :
    Asserted (Execution α) := do
  let made ← Asserted.allocateSlots session.config.limits payloadBytes count
  return (Execution.withValue session made fun array =>
    done (session.bind name (.lseq array))).logging (SlotArray.allocationEvents made)

def performSwap (session : Session α) (op : Op) (name : String) (index : Nat)
    (source into : String) : Asserted (Execution α) :=
  withValue session (session.takeLseq name) fun (array, rest) =>
    withValue (rest.bind name (.lseq array)) (rest.takeMaybe source) fun (slot, rest) => do
      let swapped ← Asserted.swap array index slot
      return (match swapped with
        | .ok (swapped, old) =>
            answer (.slot old)
              (((rest.bind name (.lseq swapped)).consume source op).bind into (.maybe old))
        | .error rejected =>
            refuse rejected.fault
              ((rest.bind name (.lseq rejected.returned.1)).bind source
                (.maybe rejected.returned.2))).logging
        (array.swapEvents index)

def performTake (session : Session α) (name : String) (index : Nat) : Asserted (Execution α) :=
  withValue session (session.takeLseq name) fun (array, rest) => do
    let taken ← Asserted.take array index
    return (match taken with
      | .ok (emptied, value) => answer (.element value) (rest.bind name (.lseq emptied))
      | .error rejected =>
          refuse rejected.fault (rest.bind name (.lseq rejected.returned))).logging
      (array.swapEvents index)

def performPut (session : Session α) (name : String) (index : Nat) (value : α) :
    Asserted (Execution α) :=
  withValue session (session.takeLseq name) fun (array, rest) => do
    let given ← Asserted.give array index value
    return match given with
      | .ok filled => done (rest.bind name (.lseq filled))
      | .error rejected => refuse rejected.fault (rest.bind name (.lseq rejected.returned.1))

def perform [Allocator] (session : Session α) (step : Step α) : Asserted (Execution α) :=
  match step with
  | .alloc name count => performAlloc session name count.toNat
  | .allocInit name count value => performAllocInit session name count.toNat value
  | .set name index value => performSet session name index.toNat value
  | .allocRaw name count => performAllocRaw session name count.toNat
  | .swapRaw name index source into => performSwap session step.op name index.toNat source into
  | .take name index => performTake session name index.toNat
  | .put name index value => performPut session name index.toNat value
  | step => .ok (session.perform step)

def execute [Allocator] (session : Session α) (step : Step α) : Asserted (Execution α) :=
  match step.validate session.state with
  | .error violation => .ok (refuse (.contractViolation violation) session)
  | .ok () => do
      let execution ← perform session step
      return execution.logging [.execute step.op]

def runFrom [Allocator] (number : Nat) (session : Session α) : List (Step α) → Asserted (Run α)
  | [] => .ok ⟨⟨[], none⟩, session, []⟩
  | step :: rest => do
      let execution ← execute session step
      match execution.outcome with
      | .ok answer =>
          let run ← runFrom (number + 1) execution.session rest
          return run.after execution.events ⟨number, step.op, answer⟩
      | .error fault =>
          return ⟨⟨[], some ⟨number, step.op, fault⟩⟩, execution.session,
            execution.events ++ [.stepFailed number step.op fault]⟩

def run [Allocator] (session : Session α) (steps : List (Step α)) : Asserted (Run α) :=
  runFrom 0 session steps

def runAll [Allocator] (session : Session α) : List (Step α) → Asserted (Session α)
  | [] => .ok session
  | step :: rest => do
      let execution ← execute session step
      runAll execution.session rest

end Session.Asserted

-- A slot as a look into the array shows it; `unseen` stands for one that cannot be shared.
def SlotArray.describe (unseen : Json) (array : SlotArray Json) (index : Nat) : Json :=
  match array.share index with
  | .ok slot => slot.json id
  | .error _ => unseen

def Binding.describe (unseen : Json) : Binding Json → Json
  | lseq array =>
      .object
        [("kind", .string "lseq"),
          ("slots", .array ((List.range array.length).map (array.describe unseen)))]
  | binding => binding.json

def Entry.describe (unseen : Json) : Entry Json → Json
  | live binding => binding.describe unseen
  | consumed op => (consumed op : Entry Json).json

def Session.describe (unseen : Json) (session : Session Json) : Json :=
  .object (session.bindings.map (Entry.describe unseen)).entries

end LinearStore
