import LinearStore.Op

set_option autoImplicit false

namespace LinearStore

inductive Step (α : Type) where
  | alloc (name : String) (length : UInt64)
  | allocInit (name : String) (length : UInt64) (value : α)
  | get (seq : String) (index : UInt64)
  | set (seq : String) (index : UInt64) (value : α)
  | length (seq : String)
  | free (seq : String)
  | unleash (seq into : String)
  | select (sequence : String) (index : UInt64)
  | give (name : String) (value : α)
  | empty (name : String)
  | peek (maybe : String)
  | unwrap (maybe : String)
  | discard (maybe : String)
  | allocRaw (name : String) (length : UInt64)
  | lengthRaw (lseq : String)
  | swapRaw (lseq : String) (index : UInt64) (source into : String)
  | shareRaw (lseq : String) (index : UInt64)
  | take (lseq : String) (index : UInt64)
  | put (lseq : String) (index : UInt64) (value : α)
  | freeRaw (lseq : String)
  | freeLseq (lseq : String)
deriving DecidableEq, Repr

-- A binding that a step needs, the kind it needs it to have, and whether the step consumes it.
structure Use where
  name : String
  kind : Kind
  consumes : Bool
deriving DecidableEq, Repr

namespace Use

def reads (name : String) (kind : Kind) : Use := ⟨name, kind, false⟩

def consuming (name : String) (kind : Kind) : Use := ⟨name, kind, true⟩

end Use

namespace Step

variable {α β : Type}

def op : Step α → Op
  | alloc .. => .alloc
  | allocInit .. => .allocInit
  | get .. => .get
  | set .. => .set
  | length .. => .length
  | free .. => .free
  | unleash .. => .unleash
  | select .. => .select
  | give .. => .give
  | empty .. => .empty
  | peek .. => .peek
  | unwrap .. => .unwrap
  | discard .. => .discard
  | allocRaw .. => .allocRaw
  | lengthRaw .. => .lengthRaw
  | swapRaw .. => .swapRaw
  | shareRaw .. => .shareRaw
  | take .. => .take
  | put .. => .put
  | freeRaw .. => .freeRaw
  | freeLseq .. => .freeLseq

-- The bindings that a step reads or consumes, in the order in which they are checked. A step that
-- gives an array back under the name it took it from counts as reading that name.
def uses : Step α → List Use
  | alloc .. | allocInit .. | give .. | empty .. | allocRaw .. => []
  | get seq _ | set seq _ _ | length seq => [.reads seq .seq]
  | free seq | unleash seq _ => [.consuming seq .seq]
  | select sequence _ => [.reads sequence .sequence]
  | peek maybe => [.reads maybe .maybe]
  | unwrap maybe | discard maybe => [.consuming maybe .maybe]
  | lengthRaw lseq | shareRaw lseq _ | take lseq _ | put lseq _ _ => [.reads lseq .lseq]
  | swapRaw lseq _ source _ => [.reads lseq .lseq, .consuming source .maybe]
  | freeRaw lseq | freeLseq lseq => [.consuming lseq .lseq]

def defines : Step α → Option (String × Kind)
  | alloc name _ | allocInit name _ _ => some (name, .seq)
  | unleash _ into => some (into, .sequence)
  | give name _ | empty name => some (name, .maybe)
  | allocRaw name _ => some (name, .lseq)
  | swapRaw _ _ _ into => some (into, .maybe)
  | _ => none

def map (f : α → β) : Step α → Step β
  | alloc name count => .alloc name count
  | allocInit name count value => .allocInit name count (f value)
  | get seq index => .get seq index
  | set seq index value => .set seq index (f value)
  | length seq => .length seq
  | free seq => .free seq
  | unleash seq into => .unleash seq into
  | select sequence index => .select sequence index
  | give name value => .give name (f value)
  | empty name => .empty name
  | peek maybe => .peek maybe
  | unwrap maybe => .unwrap maybe
  | discard maybe => .discard maybe
  | allocRaw name count => .allocRaw name count
  | lengthRaw lseq => .lengthRaw lseq
  | swapRaw lseq index source into => .swapRaw lseq index source into
  | shareRaw lseq index => .shareRaw lseq index
  | take lseq index => .take lseq index
  | put lseq index value => .put lseq index (f value)
  | freeRaw lseq => .freeRaw lseq
  | freeLseq lseq => .freeLseq lseq

end Step

end LinearStore
