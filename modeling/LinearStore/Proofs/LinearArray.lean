import LinearStore.LinearArray
import Mathlib.Logic.Function.Iterate

set_option autoImplicit false

namespace LinearStore.Provider

variable {σ α : Type}

def nth (provider : Provider σ α) (state : σ) (calls : Nat) : α :=
  (provider ((fun memory => (provider memory).2)^[calls] state)).1

theorem nth_succ (provider : Provider σ α) (state : σ) (calls : Nat) :
    provider.nth state (calls + 1) = provider.nth (provider state).2 calls := rfl

def memoryAfter (provider : Provider σ α) (state : σ) (calls : Nat) : σ :=
  (fun memory => (provider memory).2)^[calls] state

theorem draw_memory (provider : Provider σ α) (count : Nat) (state : σ) :
    (provider.draw count state).2 = provider.memoryAfter state count := by
  induction count generalizing state with
  | zero => rfl
  | succ count ih => exact ih (provider state).2

-- A provider that also keeps a list of all that it has handed out, call by call.
def recording (provider : Provider σ α) : Provider (σ × List α) α := fun memory =>
  let drawn := provider memory.1
  (drawn.1, drawn.2, memory.2 ++ [drawn.1])

theorem draw_recording (provider : Provider σ α) (count : Nat) (state : σ) (told : List α) :
    provider.recording.draw count (state, told) =
      ((provider.draw count state).1, (provider.draw count state).2,
        told ++ (provider.draw count state).1) := by
  induction count generalizing state told with
  | zero => simp only [draw, List.append_nil]
  | succ count ih => simp only [draw, recording, ih, List.append_assoc, List.singleton_append]

theorem getElem?_draw (provider : Provider σ α) {count index : Nat} (inside : index < count)
    (state : σ) : (provider.draw count state).1[index]? = some (provider.nth state index) := by
  induction count generalizing index state with
  | zero => cases inside
  | succ count ih =>
      cases index with
      | zero => rfl
      | succ index =>
          rw [draw, List.getElem?_cons_succ, ih (Nat.lt_of_succ_lt_succ inside), nth_succ]

end LinearStore.Provider

namespace LinearStore.LinearArray

variable {α : Type}

theorem get_of_read {array : LinearArray α} {index : Nat} {value : α}
    (read : array.elements[index]? = some value) : array.get index = .ok value := by
  obtain ⟨inside, same⟩ := List.getElem?_eq_some_iff.mp read
  rw [get, dif_pos inside, same]

theorem get_of_outside {array : LinearArray α} {index : Nat} (outside : array.length ≤ index) :
    array.get index = .error (array.outOfRange index) :=
  dif_neg (Nat.not_lt.mpr outside)

theorem replace_of_read {array : LinearArray α} {index : Nat} {old : α}
    (read : array.elements[index]? = some old) (value : α) :
    array.replace index value = .ok (⟨array.elements.set index value⟩, old) := by
  obtain ⟨inside, same⟩ := List.getElem?_eq_some_iff.mp read
  rw [replace, dif_pos inside, same]

theorem replace_of_outside {array : LinearArray α} {index : Nat} (outside : array.length ≤ index)
    (value : α) : array.replace index value = .error ⟨array.outOfRange index, (array, value)⟩ :=
  dif_neg (Nat.not_lt.mpr outside)

theorem set_of_read {array : LinearArray α} {index : Nat} {old : α}
    (read : array.elements[index]? = some old) (value : α) :
    array.set index value = .ok ⟨array.elements.set index value⟩ := by
  rw [set, replace_of_read read]
  rfl

theorem set_of_outside {array : LinearArray α} {index : Nat} (outside : array.length ≤ index)
    (value : α) : array.set index value = .error ⟨array.outOfRange index, (array, value)⟩ := by
  rw [set, replace_of_outside outside]
  rfl

theorem read_or_outside (array : LinearArray α) (index : Nat) :
    array.length ≤ index ∨ ∃ value, array.elements[index]? = some value := by
  by_cases inside : index < array.elements.length
  · exact Or.inr ⟨_, List.getElem?_eq_getElem inside⟩
  · exact Or.inl (Nat.not_lt.mp inside)

-- Asking the limit first and reserving afterwards is what `Limits.grant` does in one.
theorem allocate_constant [Allocator] (limits : Limits) (slotBytes length : Nat) (value : α) :
    (allocate limits slotBytes (.constant value) length ()).1 =
      (limits.grant slotBytes length).map fun _ => ⟨List.replicate length value⟩ := by
  rw [allocate]
  cases limits.grant slotBytes length with
  | error fault => rfl
  | ok _ => simp only [Provider.draw_constant, Except.map]

end LinearStore.LinearArray
