import LinearStore.Session.Execute

set_option autoImplicit false

namespace LinearStore

variable {α : Type}

-- Slots that are bound on their own are not indexed and have no length.
def Binding.length? : Binding α → Option Nat
  | .seq array => some array.length
  | .lseq array => some array.length
  | .maybe _ => none
  | .sequence contents => some contents.length

namespace Step

def addresses : Step α → Option (String × UInt64)
  | .get name index | .set name index _ | .select name index | .swapRaw name index _ _
  | .shareRaw name index | .take name index | .put name index _ => some (name, index)
  | _ => none

def requests : Step α → Option UInt64
  | .alloc _ count | .allocInit _ count _ | .allocRaw _ count => some count
  | _ => none

end Step

namespace Session

def Holds (session : Session α) (name : String) (binding : Binding α) : Prop :=
  session.bindings.find? name = some (.live binding)

inductive Effect [Allocator] (session : Session α) :
    Step α → Option (Answer α) → Session α → Prop
  | alloc {name : String} {length : UInt64}
      (granted : session.config.limits.grant payloadBytes length.toNat = .ok ()) :
      Effect session (.alloc name length) none
        (session.bind name
          (.seq ⟨List.replicate length.toNat session.config.defaultValue⟩))
  | allocInit {name : String} {length : UInt64} {value : α}
      (granted : session.config.limits.grant payloadBytes length.toNat = .ok ()) :
      Effect session (.allocInit name length value) none
        (session.bind name (.seq ⟨List.replicate length.toNat value⟩))
  | get {name : String} {index : UInt64} {array : LinearArray α} {value : α}
      (found : session.Holds name (.seq array)) (read : array.elements[index.toNat]? = some value) :
      Effect session (.get name index) (some (.element value)) session
  | set {name : String} {index : UInt64} {value old : α} {array : LinearArray α}
      (found : session.Holds name (.seq array)) (read : array.elements[index.toNat]? = some old) :
      Effect session (.set name index value) none
        (session.bind name (.seq ⟨array.elements.set index.toNat value⟩))
  | length {name : String} {array : LinearArray α} (found : session.Holds name (.seq array)) :
      Effect session (.length name) (some (.count array.length)) session
  | free {name : String} {array : LinearArray α} (found : session.Holds name (.seq array)) :
      Effect session (.free name) none (session.consume name .free)
  | unleash {name into : String} {array : LinearArray α}
      (found : session.Holds name (.seq array)) :
      Effect session (.unleash name into) (some (.elements array.elements))
        ((session.consume name .unleash).bind into (.sequence ⟨array.elements⟩))
  | select {name : String} {index : UInt64} {contents : Sequence α} {value : α}
      (found : session.Holds name (.sequence contents))
      (read : contents.elements[index.toNat]? = some value) :
      Effect session (.select name index) (some (.element value)) session
  | give {name : String} {value : α} :
      Effect session (.give name value) none (session.bind name (.maybe (.full value)))
  | empty {name : String} :
      Effect session (.empty name) none (session.bind name (.maybe .empty))
  | peek {name : String} {value : α} (found : session.Holds name (.maybe (.full value))) :
      Effect session (.peek name) (some (.element value)) session
  | unwrap {name : String} {value : α} (found : session.Holds name (.maybe (.full value))) :
      Effect session (.unwrap name) (some (.element value)) (session.consume name .unwrap)
  | discard {name : String} {slot : Slot α} (found : session.Holds name (.maybe slot)) :
      Effect session (.discard name) none (session.consume name .discard)
  | allocRaw {name : String} {length : UInt64}
      (granted : session.config.limits.grant payloadBytes length.toNat = .ok ()) :
      Effect session (.allocRaw name length) none
        (session.bind name (.lseq ⟨List.replicate length.toNat .empty⟩))
  | lengthRaw {name : String} {array : SlotArray α} (found : session.Holds name (.lseq array)) :
      Effect session (.lengthRaw name) (some (.count array.length)) session
  | swapRaw {name : String} {index : UInt64} {source into : String} {array : SlotArray α}
      {new old : Slot α} (found : session.Holds name (.lseq array))
      (brought : session.Holds source (.maybe new))
      (read : array.slots[index.toNat]? = some old) :
      Effect session (.swapRaw name index source into) (some (.slot old))
        (((session.bind name (.lseq ⟨array.slots.set index.toNat new⟩)).consume source
          .swapRaw).bind into (.maybe old))
  | shareRaw {name : String} {index : UInt64} {array : SlotArray α} {slot : Slot α}
      (found : session.Holds name (.lseq array))
      (read : array.slots[index.toNat]? = some slot) :
      Effect session (.shareRaw name index) (some (.slot slot)) session
  | take {name : String} {index : UInt64} {array : SlotArray α} {value : α}
      (found : session.Holds name (.lseq array))
      (read : array.slots[index.toNat]? = some (.full value)) :
      Effect session (.take name index) (some (.element value))
        (session.bind name (.lseq ⟨array.slots.set index.toNat .empty⟩))
  | put {name : String} {index : UInt64} {value : α} {array : SlotArray α}
      (found : session.Holds name (.lseq array))
      (read : array.slots[index.toNat]? = some .empty) :
      Effect session (.put name index value) none
        (session.bind name (.lseq ⟨array.slots.set index.toNat (.full value)⟩))
  | freeRaw {name : String} {array : SlotArray α} (found : session.Holds name (.lseq array))
      (vacant : session.config.strictFree = true → array.fullCount = 0) :
      Effect session (.freeRaw name) none (session.consume name .freeRaw)
  | freeLseq {name : String} {array : SlotArray α} (found : session.Holds name (.lseq array))
      (vacant : array.fullCount = 0) :
      Effect session (.freeLseq name) none (session.consume name .freeLseq)

-- Reasons that lie in values. Names are checked before any of them can show.
inductive Refuses [Allocator] (session : Session α) : Step α → Fault → Prop
  | denied {step : Step α} {length : UInt64} {reason : Refusal}
      (requested : step.requests = some length)
      (denied : session.config.limits.grant payloadBytes length.toNat =
        .error (.allocation length.toNat reason)) :
      Refuses session step (.allocation length.toNat reason)
  | outside {step : Step α} {name : String} {index : UInt64} {binding : Binding α} {length : Nat}
      (addressed : step.addresses = some (name, index)) (found : session.Holds name binding)
      (measured : binding.length? = some length) (outside : length ≤ index.toNat) :
      Refuses session step (.indexOutOfRange index.toNat length)
  | peek {name : String} (found : session.Holds name (.maybe .empty)) :
      Refuses session (.peek name) (.contractViolation .peekEmpty)
  | unwrap {name : String} (found : session.Holds name (.maybe .empty)) :
      Refuses session (.unwrap name) (.contractViolation .unwrapEmpty)
  | take {name : String} {index : UInt64} {array : SlotArray α}
      (found : session.Holds name (.lseq array))
      (read : array.slots[index.toNat]? = some .empty) :
      Refuses session (.take name index) (.contractViolation (.slotEmpty index.toNat))
  | put {name : String} {index : UInt64} {value old : α} {array : SlotArray α}
      (found : session.Holds name (.lseq array))
      (read : array.slots[index.toNat]? = some (.full old)) :
      Refuses session (.put name index value) (.contractViolation (.slotOccupied index.toNat))
  | freeRaw {name : String} {array : SlotArray α} (strict : session.config.strictFree = true)
      (found : session.Holds name (.lseq array)) (occupied : array.fullCount ≠ 0) :
      Refuses session (.freeRaw name)
        (.contractViolation (.freeWithOccupiedSlots array.fullCount))
  | freeLseq {name : String} {array : SlotArray α} (found : session.Holds name (.lseq array))
      (occupied : array.fullCount ≠ 0) :
      Refuses session (.freeLseq name)
        (.contractViolation (.freeWithOccupiedSlots array.fullCount))

end Session

end LinearStore
