import LinearStore.Allocation
import LinearStore.Sequence

set_option autoImplicit false

namespace LinearStore

def Provider (σ α : Type) : Type := σ → α × σ

namespace Provider

variable {σ α : Type}

def constant (value : α) : Provider Unit α := fun state => (value, state)

def draw (provider : Provider σ α) : Nat → σ → List α × σ
  | 0, state => ([], state)
  | count + 1, state =>
      let first := provider state
      let rest := provider.draw count first.2
      (first.1 :: rest.1, rest.2)

theorem draw_length (provider : Provider σ α) (count : Nat) (state : σ) :
    (provider.draw count state).1.length = count := by
  induction count generalizing state with
  | zero => rfl
  | succ count step => simp [draw, step]

theorem draw_constant (value : α) (count : Nat) :
    ((constant value).draw count ()).1 = List.replicate count value := by
  induction count with
  | zero => rfl
  | succ count step => simpa [draw, constant, List.replicate_succ] using step

end Provider

structure LinearArray (α : Type) where
  elements : List α
deriving DecidableEq, Repr

namespace LinearArray

variable {σ α β : Type}

def allocate [Allocator] (limits : Limits) (slotBytes : Nat) (provider : Provider σ α)
    (length : Nat) (state : σ) : Except Fault (LinearArray α) × σ :=
  match limits.grant slotBytes length with
  | .error fault => (.error fault, state)
  | .ok () =>
      let drawn := provider.draw length state
      (.ok ⟨drawn.1⟩, drawn.2)

def allocateInit [Allocator] (slotBytes length : Nat) (value : α) :
    Except Fault (LinearArray α) :=
  match Allocation.reserve slotBytes length with
  | .error fault => .error fault
  | .ok () => .ok ⟨List.replicate length value⟩

def length (array : LinearArray α) : Nat := array.elements.length

def isEmpty (array : LinearArray α) : Bool := array.elements.isEmpty

def outOfRange (array : LinearArray α) (index : Nat) : Fault := .indexOutOfRange index array.length

def get (array : LinearArray α) (index : Nat) : Except Fault α :=
  if inside : index < array.elements.length then .ok array.elements[index]
  else .error (array.outOfRange index)

def replace (array : LinearArray α) (index : Nat) (value : α) :
    Except (Rejected (LinearArray α × α)) (LinearArray α × α) :=
  if inside : index < array.elements.length then
    .ok (⟨array.elements.set index value⟩, array.elements[index])
  else .error ⟨array.outOfRange index, (array, value)⟩

def set (array : LinearArray α) (index : Nat) (value : α) :
    Except (Rejected (LinearArray α × α)) (LinearArray α) :=
  (array.replace index value).map Prod.fst

def unleash (array : LinearArray α) : Sequence α := ⟨array.elements⟩

def map (f : α → β) (array : LinearArray α) : LinearArray β := ⟨array.elements.map f⟩

def inspect (text : α → String) (array : LinearArray α) : String :=
  "LinearSeq([" ++ ", ".intercalate (array.elements.map text) ++ "])"

end LinearArray

end LinearStore
