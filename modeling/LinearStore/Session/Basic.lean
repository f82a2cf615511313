import LinearStore.LinearArray
import LinearStore.Script.Basic
import LinearStore.SlotArray

set_option autoImplicit false

namespace LinearStore

inductive Binding (α : Type) where
  | seq (array : LinearArray α)
  | lseq (array : SlotArray α)
  | maybe (slot : Slot α)
  | sequence (contents : Sequence α)
deriving DecidableEq, Repr

namespace Binding

variable {α β : Type}

def kind : Binding α → Kind
  | seq _ => .seq
  | lseq _ => .lseq
  | maybe _ => .maybe
  | sequence _ => .sequence

def map (f : α → β) : Binding α → Binding β
  | seq array => .seq (array.map f)
  | lseq array => .lseq (array.map f)
  | maybe slot => .maybe (slot.map f)
  | sequence contents => .sequence (contents.map f)

end Binding

inductive Entry (α : Type) where
  | live (binding : Binding α)
  | consumed (op : Op)
deriving DecidableEq, Repr

namespace Entry

variable {α β : Type}

def state : Entry α → NameState
  | live binding => .live binding.kind
  | consumed op => .consumed op

def map (f : α → β) : Entry α → Entry β
  | live binding => .live (binding.map f)
  | consumed op => .consumed op

end Entry

structure Session (α : Type) where
  config : Config α
  bindings : Table (Entry α)

inductive Answer (α : Type) where
  | element (value : α)
  | elements (values : List α)
  | count (n : Nat)
  | slot (content : Slot α)
deriving DecidableEq, Repr

def Answer.map {α β : Type} (f : α → β) : Answer α → Answer β
  | .element value => .element (f value)
  | .elements values => .elements (values.map f)
  | .count n => .count n
  | .slot content => .slot (content.map f)

namespace Session

variable {α : Type}

-- The bytes that one payload, or one slot for it, takes.
def payloadBytes : Nat := 32

def new (config : Config α) : Session α := ⟨config, .empty⟩

def state (session : Session α) (name : String) : Option NameState :=
  (session.bindings.find? name).map Entry.state

def names (session : Session α) : Table NameState := session.bindings.map Entry.state

def liveLinear (session : Session α) : List String :=
  session.bindings.namesWhere fun entry => entry.state.isLiveLinear

def bind (session : Session α) (name : String) (binding : Binding α) : Session α :=
  { session with bindings := session.bindings.insert name (.live binding) }

def consume (session : Session α) (name : String) (op : Op) : Session α :=
  { session with bindings := session.bindings.insert name (.consumed op) }

def remove (session : Session α) (name : String) : Session α :=
  { session with bindings := session.bindings.erase name }

def accessFault (session : Session α) (name : String) (kind : Kind) : Fault :=
  match session.state name with
  | none => .contractViolation (.unknownBinding name)
  | some (.consumed op) => .contractViolation (.useAfterConsume name op)
  | some (.live found) => .contractViolation (.kindMismatch name kind found)

def seq (session : Session α) (name : String) : Except Fault (LinearArray α) :=
  match session.bindings.find? name with
  | some (.live (.seq array)) => .ok array
  | _ => .error (session.accessFault name .seq)

def lseq (session : Session α) (name : String) : Except Fault (SlotArray α) :=
  match session.bindings.find? name with
  | some (.live (.lseq array)) => .ok array
  | _ => .error (session.accessFault name .lseq)

def maybe (session : Session α) (name : String) : Except Fault (Slot α) :=
  match session.bindings.find? name with
  | some (.live (.maybe slot)) => .ok slot
  | _ => .error (session.accessFault name .maybe)

def sequence (session : Session α) (name : String) : Except Fault (Sequence α) :=
  match session.bindings.find? name with
  | some (.live (.sequence contents)) => .ok contents
  | _ => .error (session.accessFault name .sequence)

-- Moves an array out of the table. Whoever takes it binds it again or marks its name as consumed.
def takeSeq (session : Session α) (name : String) : Except Fault (LinearArray α × Session α) :=
  (session.seq name).map fun array => (array, session.remove name)

def takeLseq (session : Session α) (name : String) : Except Fault (SlotArray α × Session α) :=
  (session.lseq name).map fun array => (array, session.remove name)

def takeMaybe (session : Session α) (name : String) : Except Fault (Slot α × Session α) :=
  (session.maybe name).map fun slot => (slot, session.remove name)

end Session

end LinearStore
