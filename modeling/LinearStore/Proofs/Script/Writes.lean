import LinearStore.Script.Step

set_option autoImplicit false

namespace LinearStore

variable {α : Type}

namespace Step

def allocates (defaultValue : α) : Step α → Option (String × UInt64 × α)
  | .alloc name count => some (name, count, defaultValue)
  | .allocInit name count value => some (name, count, value)
  | _ => none

-- The container that a step stores into. Its binding stays, so the step neither consumes nor defines
-- its name.
def stores : Step α → Option String
  | .set name _ _ | .swapRaw name _ _ _ | .take name _ | .put name _ _ => some name
  | _ => none

def writes (step : Step α) (name : String) (index : Nat) : Option α :=
  match step with
  | .set target place value => if target = name ∧ place.toNat = index then some value else none
  | _ => none

theorem writes_set_here (name : String) (index : UInt64) (value : α) :
    (Step.set name index value).writes name index.toNat = some value :=
  if_pos ⟨rfl, rfl⟩

theorem writes_set_of_ne (name : String) {index : UInt64} {other : Nat} (value : α)
    (different : index.toNat ≠ other) : (Step.set name index value).writes name other = none :=
  if_neg fun same => different same.2

theorem writes_of_not_stored {step : Step α} {name : String} (unstored : step.stores ≠ some name)
    (index : Nat) : step.writes name index = none := by
  cases step with
  | set target place value =>
      have different : target ≠ name := fun same => unstored (congrArg some same)
      exact if_neg fun same => different same.1
  | _ => rfl

end Step

namespace Script

def lastWrite (steps : List (Step α)) (name : String) (index : Nat) (fill : α) : α :=
  (steps.reverse.findSome? fun step => step.writes name index).getD fill

-- What an array of this length holds after these steps, if it was filled with this value before them.
def written (steps : List (Step α)) (name : String) (length : UInt64) (fill : α) : List α :=
  (List.range length.toNat).map fun index => lastWrite steps name index fill

theorem last_write_append (steps : List (Step α)) (step : Step α) (name : String) (index : Nat)
    (fill : α) :
    lastWrite (steps ++ [step]) name index fill =
      (step.writes name index).getD (lastWrite steps name index fill) := by
  rw [lastWrite, List.reverse_append, List.reverse_singleton, List.singleton_append,
    List.findSome?_cons]
  cases step.writes name index <;> rfl

theorem length_written (steps : List (Step α)) (name : String) (length : UInt64) (fill : α) :
    (written steps name length fill).length = length.toNat := by
  rw [written, List.length_map, List.length_range]

theorem getElem?_written (steps : List (Step α)) (name : String) (length : UInt64) (fill : α)
    (index : Nat) :
    (written steps name length fill)[index]? =
      if index < length.toNat then some (lastWrite steps name index fill) else none := by
  rw [written, List.getElem?_map]
  by_cases inside : index < length.toNat
  · rw [if_pos inside, List.getElem?_range inside]
    rfl
  · rw [if_neg inside, List.getElem?_eq_none]
    · rfl
    · rw [List.length_range]
      exact Nat.not_lt.mp inside

theorem written_nil (name : String) (length : UInt64) (fill : α) :
    written [] name length fill = List.replicate length.toNat fill := by
  have unwritten : (fun index => lastWrite [] name index fill) = fun _ => fill := rfl
  rw [written, unwritten, List.map_const', List.length_range]

theorem written_append_of_not_stored {step : Step α} {name : String}
    (unstored : step.stores ≠ some name) (steps : List (Step α)) (length : UInt64) (fill : α) :
    written (steps ++ [step]) name length fill = written steps name length fill := by
  refine List.map_congr_left fun index _ => ?_
  rw [last_write_append, Step.writes_of_not_stored unstored]
  rfl

theorem written_append_set (steps : List (Step α)) (name : String) (index : UInt64) (value : α)
    (length : UInt64) (fill : α) :
    written (steps ++ [.set name index value]) name length fill =
      (written steps name length fill).set index.toNat value := by
  refine List.ext_getElem? fun place => ?_
  rw [List.getElem?_set, getElem?_written, getElem?_written, last_write_append, length_written]
  by_cases here : index.toNat = place
  · subst here
    rw [if_pos rfl, Step.writes_set_here]
    rfl
  · rw [if_neg here, Step.writes_set_of_ne name value here]
    rfl

end Script

end LinearStore
