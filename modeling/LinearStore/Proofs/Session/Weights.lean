import LinearStore.Proofs.Session.Names
import LinearStore.Proofs.Table

set_option autoImplicit false

namespace LinearStore

variable {α M : Type} [AddCancelCommMonoid M]

-- What is consumed, or a sequence that may be dropped at will, weighs nothing.
def WeighsLinear (weight : Entry α → M) : Prop :=
  ∀ entry, entry.state.isLiveLinear = false → weight entry = 0

namespace Session

variable {session : Session α} {weight : Entry α → M}

def weighed (weight : Entry α → M) (session : Session α) : M := session.bindings.total weight

theorem weighed_rebind {name : String} {old : Binding α} (found : session.Holds name old)
    (new : Binding α) :
    (session.bind name new).weighed weight + weight (.live old) =
      session.weighed weight + weight (.live new) :=
  Table.total_insert_of_find weight found _

theorem weighed_consume (linear : WeighsLinear weight) {name : String} {old : Binding α}
    (found : session.Holds name old) (op : Op) :
    (session.consume name op).weighed weight + weight (.live old) = session.weighed weight := by
  have change := Table.total_insert_of_find weight found (.consumed op)
  rwa [linear (.consumed op) rfl, add_zero] at change

theorem weighed_bind (linear : WeighsLinear weight) {name : String}
    (hidesNothing : ∀ kind, session.names.find? name = some (.live kind) → kind.isLinear = false)
    (binding : Binding α) :
    (session.bind name binding).weighed weight =
      session.weighed weight + weight (.live binding) := by
  refine Table.total_insert_of_weightless weight (fun old found => ?_) _
  apply linear
  have state : session.names.find? name = some old.state := by
    rw [names, Table.find_map, found]
    rfl
  cases current : old.state with
  | consumed op => rfl
  | live kind => exact hidesNothing kind (state.trans (congrArg some current))

theorem weighed_unleash (linear : WeighsLinear weight) {name into : String}
    {array : LinearArray α}
    (valid : (Step.unleash name into : Step α).validate session.names.find? = .ok ())
    (found : session.Holds name (.seq array)) (contents : Sequence α) :
    ((session.consume name .unleash).bind into (.sequence contents)).weighed weight +
      weight (.live (.seq array)) = session.weighed weight := by
  have hidesNothing := Step.hides_nothing_after_consume valid rfl Step.releases_unleash .unleash
  rw [← names_consume] at hidesNothing
  rw [weighed_bind linear hidesNothing, linear (.live (.sequence contents)) rfl, add_zero]
  exact weighed_consume linear found .unleash

-- The array is bound again, the source consumed, and what comes out bound: three changes of the sum.
theorem weighed_swap_raw (linear : WeighsLinear weight) {name source into : String}
    {index : UInt64} {array : SlotArray α} {new : Slot α}
    (valid : (Step.swapRaw name index source into : Step α).validate session.names.find? = .ok ())
    (found : session.Holds name (.lseq array)) (brought : session.Holds source (.maybe new))
    (stored : SlotArray α) (old : Slot α) :
    (((session.bind name (.lseq stored)).consume source .swapRaw).bind into
        (.maybe old)).weighed weight +
        (weight (.live (.lseq array)) + weight (.live (.maybe new))) =
      session.weighed weight + (weight (.live (.lseq stored)) + weight (.live (.maybe old))) := by
  have different : source ≠ name := by
    rintro rfl
    cases found.symm.trans brought
  have stillBrought : (session.bind name (.lseq stored)).Holds source (.maybe new) := by
    rw [Holds, bind, Table.find_insert_of_ne _ _ different]
    exact brought
  have rebound : (session.bind name (.lseq stored)).weighed weight + weight (.live (.lseq array)) =
      session.weighed weight + weight (.live (.lseq stored)) :=
    weighed_rebind found (.lseq stored)
  have consumed := weighed_consume linear stillBrought .swapRaw
  have hidesNothing := Step.hides_nothing_after_consume valid rfl Step.releases_swap_raw .swapRaw
  rw [← names_rebind found (.lseq stored) rfl, ← names_consume] at hidesNothing
  have bound := weighed_bind linear hidesNothing (.maybe old)
  grind

end Session

end LinearStore
