set_option autoImplicit false

namespace LinearStore

structure Sequence (α : Type) where
  elements : List α
deriving DecidableEq, Repr

namespace Sequence

variable {α β : Type}

def empty : Sequence α := ⟨[]⟩

def length (s : Sequence α) : Nat := s.elements.length

def isEmpty (s : Sequence α) : Bool := s.elements.isEmpty

def select? (s : Sequence α) (index : Nat) : Option α := s.elements[index]?

def subsequence (s : Sequence α) (lo hi : Nat) : Sequence α :=
  let stop := min hi s.length
  let start := min lo stop
  ⟨(s.elements.drop start).take (stop - start)⟩

def take (s : Sequence α) (count : Nat) : Sequence α := s.subsequence 0 count

def drop (s : Sequence α) (count : Nat) : Sequence α := s.subsequence count s.length

def concatenate (s t : Sequence α) : Sequence α := ⟨s.elements ++ t.elements⟩

def isPrefixOf [DecidableEq α] (s t : Sequence α) : Bool := s.elements.isPrefixOf t.elements

def isProperPrefixOf [DecidableEq α] (s t : Sequence α) : Bool :=
  decide (s.length < t.length) && s.isPrefixOf t

def contains [DecidableEq α] (s : Sequence α) (value : α) : Bool := s.elements.contains value

def map (f : α → β) (s : Sequence α) : Sequence β := ⟨s.elements.map f⟩

-- Compares element by element; of two sequences that agree up to an end, the shorter is less.
def compareWith (order : α → α → Ordering) : List α → List α → Ordering
  | [], [] => .eq
  | [], _ :: _ => .lt
  | _ :: _, [] => .gt
  | a :: s, b :: t => (order a b).then (compareWith order s t)

def compare [Ord α] (s t : Sequence α) : Ordering :=
  compareWith Ord.compare s.elements t.elements

def inspect (text : α → String) (s : Sequence α) : String :=
  "ImmutableSequence \x7b elements: [" ++ ", ".intercalate (s.elements.map text) ++ "] \x7d"

end Sequence

structure Handle (α : Type) where
  storage : Nat
  contents : Sequence α
deriving DecidableEq, Repr

namespace Handle

variable {α : Type}

def sharesStorage (a b : Handle α) : Bool := a.storage == b.storage

-- The slice from `lo` to `hi`; `fresh` is the storage it gets unless it is the whole sequence.
def subsequence (fresh : Nat) (handle : Handle α) (lo hi : Nat) : Handle α :=
  let stop := min hi handle.contents.length
  let start := min lo stop
  if start = 0 ∧ stop = handle.contents.length then handle
  else ⟨fresh, handle.contents.subsequence lo hi⟩

def take (fresh : Nat) (handle : Handle α) (count : Nat) : Handle α :=
  handle.subsequence fresh 0 count

def drop (fresh : Nat) (handle : Handle α) (count : Nat) : Handle α :=
  handle.subsequence fresh count handle.contents.length

def concatenate (fresh : Nat) (a b : Handle α) : Handle α :=
  if b.contents.isEmpty then a
  else if a.contents.isEmpty then b
  else ⟨fresh, a.contents.concatenate b.contents⟩

end Handle

end LinearStore
