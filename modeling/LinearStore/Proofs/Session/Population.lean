import LinearStore.Proofs.Session.History
import LinearStore.Proofs.Session.Weights

set_option autoImplicit false

namespace LinearStore

variable {α : Type}

def Entry.isLive (kind : Kind) : Entry α → Bool
  | .live binding => binding.kind == kind
  | .consumed _ => false

def Entry.liveWeight (kind : Kind) (entry : Entry α) : Nat := (entry.isLive kind).toNat

namespace Step

def consumesKind (kind : Kind) (step : Step α) : Bool :=
  step.uses.any fun use => use.consumes && use.kind == kind

def definesKind (kind : Kind) (step : Step α) : Bool :=
  step.defines.any fun defined => defined.2 == kind

end Step

theorem live_weight_weighs_linear {kind : Kind} (linear : kind.isLinear = true) :
    WeighsLinear (Entry.liveWeight kind : Entry α → Nat) := by
  intro entry dropped
  cases entry with
  | consumed op => rfl
  | live binding =>
      have different : binding.kind ≠ kind := by
        intro same
        have freely : binding.kind.isLinear = false := dropped
        rw [same, linear] at freely
        cases freely
      exact congrArg Bool.toNat (beq_false_of_ne different)

namespace Session

variable {session : Session α}

def liveCount (kind : Kind) (session : Session α) : Nat :=
  (session.bindings.namesWhere (Entry.isLive kind)).length

theorem live_count_eq (kind : Kind) (session : Session α) :
    session.liveCount kind = session.weighed (Entry.liveWeight kind) :=
  Table.length_names_where (Entry.isLive kind) session.bindings

theorem live_count_rebind (kind : Kind) {name : String} {old : Binding α}
    (found : session.Holds name old) (new : Binding α) (same : new.kind = old.kind) :
    (session.bind name new).liveCount kind = session.liveCount kind := by
  have alike : Entry.liveWeight kind (.live new) = Entry.liveWeight kind (.live old) := by
    rw [Entry.liveWeight, Entry.isLive, same]
    rfl
  rw [live_count_eq, live_count_eq]
  exact Nat.add_right_cancel ((weighed_rebind found new).trans (congrArg _ alike))

theorem live_count_consume {kind : Kind} (linear : kind.isLinear = true) {name : String}
    {old : Binding α} (found : session.Holds name old) (op : Op) :
    (session.consume name op).liveCount kind + (old.kind == kind).toNat =
      session.liveCount kind := by
  rw [live_count_eq, live_count_eq]
  exact weighed_consume (live_weight_weighs_linear linear) found op

variable [Allocator]

theorem effect_live_count {kind : Kind} (linear : kind.isLinear = true)
    {step : Step α} {answer : Option (Answer α)} {next : Session α}
    (valid : step.validate session.names.find? = .ok ())
    (effect : session.Effect step answer next) :
    next.liveCount kind + (step.consumesKind kind).toNat =
      session.liveCount kind + (step.definesKind kind).toNat := by
  have weighs := live_weight_weighs_linear (α := α) linear
  simp only [Step.consumesKind, Step.definesKind]
  cases effect with
  | get | length | select | peek | lengthRaw | shareRaw => rfl
  | set found | take found | put found => exact live_count_rebind kind found _ rfl
  | alloc | allocInit | give | empty | allocRaw =>
      rw [live_count_eq, live_count_eq]
      exact weighed_bind weighs (Step.hides_nothing valid rfl rfl) _
  | free found | unwrap found | discard found | freeRaw found | freeLseq found =>
      simpa [Step.uses, Step.defines, Use.consuming, Binding.kind] using
        live_count_consume linear found _
  | @unleash name into array found =>
      have frozen : (Kind.sequence == kind) = false := by
        refine beq_false_of_ne ?_
        rintro rfl
        cases linear
      have change := weighed_unleash weighs valid found ⟨array.elements⟩
      rw [← live_count_eq, ← live_count_eq] at change
      simpa [Step.uses, Step.defines, Use.consuming, Entry.liveWeight, Entry.isLive, Binding.kind,
        frozen] using change
  | @swapRaw name index source into array new old found brought read =>
      have change := weighed_swap_raw weighs valid found brought
        ⟨array.slots.set index.toNat new⟩ old
      rw [← live_count_eq, ← live_count_eq] at change
      have same := Nat.add_right_cancel change
      simpa [Step.uses, Step.defines, Use.consuming, Use.reads] using same

theorem live_of_succeeding {kind : Kind} (linear : kind.isLinear = true) (session : Session α)
    (steps : List (Step α)) :
    (session.runAll steps).liveCount kind +
        (session.succeeding steps).countP (Step.consumesKind kind) =
      session.liveCount kind + (session.succeeding steps).countP (Step.definesKind kind) :=
  succeeding_balance (liveCount kind) _ _ (effect_live_count linear) session steps

end Session

end LinearStore
