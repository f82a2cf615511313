import LinearStore.Allocation
import LinearStore.Proofs.LinearArray
import LinearStore.Proofs.SlotArray
import LinearStore.Surface

set_option autoImplicit false

namespace LinearStore

variable {σ α : Type}

namespace LinearArray

namespace Write

def index : Write α → Nat
  | .set index _ | .replace index _ => index
  | .externSet index _ => index.toNat

def value : Write α → α
  | .set _ value | .externSet _ value | .replace _ value => value

def valueAt (place : Nat) (write : Write α) : Option α :=
  if write.index = place then some write.value else none

end Write

def lastWrite (writes : List (Write α)) (place : Nat) (fill : α) : α :=
  (writes.reverse.findSome? (Write.valueAt place)).getD fill

theorem last_write_cons (write : Write α) (rest : List (Write α)) (place : Nat) (fill : α) :
    lastWrite (write :: rest) place fill =
      lastWrite rest place ((write.valueAt place).getD fill) := by
  rw [lastWrite, List.reverse_cons, List.findSome?_append, List.findSome?_singleton, lastWrite]
  cases rest.reverse.findSome? (Write.valueAt place) <;> rfl

-- Setting a place outside a list changes nothing, so these cover the writes that are refused.
theorem set_array (array : LinearArray α) (index : Nat) (value : α) :
    (afterSet (array.set index value)).2 = ⟨array.elements.set index value⟩ := by
  rcases array.read_or_outside index with outside | ⟨old, read⟩
  · rw [set_of_outside outside, List.set_eq_of_length_le outside]
    rfl
  · rw [set_of_read read]
    rfl

theorem replace_array (array : LinearArray α) (index : Nat) (value : α) :
    (afterReplace (array.replace index value)).2 = ⟨array.elements.set index value⟩ := by
  rcases array.read_or_outside index with outside | ⟨old, read⟩
  · rw [replace_of_outside outside, List.set_eq_of_length_le outside]
    rfl
  · rw [replace_of_read read]
    rfl

theorem write_array (array : LinearArray α) (write : Write α) :
    (array.write write).2 = ⟨array.elements.set write.index write.value⟩ := by
  cases write with
  | set index value => exact set_array array index value
  | replace index value => exact replace_array array index value
  | externSet index value =>
      rw [LinearArray.write, Surface.seq_set_eq]
      exact set_array array index.toNat value

theorem getElem?_write (array : LinearArray α) (write : Write α) (place : Nat) :
    (array.write write).2.elements[place]? =
      array.elements[place]?.map fun old => (write.valueAt place).getD old := by
  rw [write_array, List.getElem?_set, Write.valueAt]
  by_cases here : write.index = place
  · subst here
    by_cases inside : write.index < array.elements.length
    · simp [inside]
    · simp [inside]
  · simp [here]

theorem length_writes (array : LinearArray α) (writes : List (Write α)) :
    (array.writes writes).2.length = array.length := by
  induction writes generalizing array with
  | nil => rfl
  | cons write rest ih =>
      refine (ih (array.write write).2).trans ?_
      rw [write_array]
      exact List.length_set

theorem getElem?_writes (array : LinearArray α) (writes : List (Write α)) (place : Nat) :
    (array.writes writes).2.elements[place]? =
      array.elements[place]?.map (lastWrite writes place) := by
  induction writes generalizing array with
  | nil => exact Option.map_id'.symm
  | cons write rest ih =>
      refine (ih (array.write write).2).trans ?_
      rw [getElem?_write, Option.map_map]
      exact congrArg (array.elements[place]?.map ·) (funext fun old =>
        (last_write_cons write rest place old).symm)

theorem returned_writes {writes : List (Write α)} {place : Nat} {write : Write α}
    (made : writes[place]? = some write) (array : LinearArray α) :
    (array.writes writes).1[place]? =
      some ((array.writes (writes.take place)).2.write write).1 := by
  induction writes generalizing array place with
  | nil => cases made
  | cons first rest ih =>
      cases place with
      | zero =>
          cases made
          rfl
      | succ place => exact ih made (array.write first).2

theorem getElem?_allocate [Allocator] {limits : Limits} {slotBytes length : Nat}
    {provider : Provider σ α} {state : σ} {array : LinearArray α}
    (allocated : (allocate limits slotBytes provider length state).1 = .ok array) :
    array.length = length ∧
      ∀ index < length, array.elements[index]? = some (provider.nth state index) := by
  rw [allocate] at allocated
  cases granted : limits.grant slotBytes length with
  | error fault =>
      rw [granted] at allocated
      cases allocated
  | ok _ =>
      rw [granted] at allocated
      cases allocated
      exact ⟨provider.draw_length length state, fun _ inside => provider.getElem?_draw inside state⟩

end LinearArray

open LinearArray in
theorem last_writer_wins [Allocator] {limits : Limits} {slotBytes length : Nat}
    {provider : Provider σ α} {state : σ} {array : LinearArray α}
    (allocated : (LinearArray.allocate limits slotBytes provider length state).1 = .ok array)
    (writes : List (Write α)) :
    let told := array.writes writes
    let current := told.2
    let held := fun index => lastWrite writes index (provider.nth state index)
    current.length = length ∧
    (∀ index < length, current.get index = .ok (held index)) ∧
    (∀ index, length ≤ index → current.get index = .error (.indexOutOfRange index length)) ∧
    (∀ index : UInt64, Surface.seqGet current index = current.get index.toNat) ∧
    (∀ place index value, writes[place]? = some (.replace index value) → index < length →
      ∃ element, (array.writes (writes.take place)).2.get index = .ok element ∧
        told.1[place]? = some (.ok (some element))) ∧
    current.unleash.length = length ∧
    (∀ index < length, ∃ element, current.get index = .ok element ∧
      current.unleash.select? index = some element) ∧
    (∀ index, length ≤ index → current.unleash.select? index = none) ∧
    Surface.seqUnleash current = current.unleash := by
  intro told current held
  obtain ⟨granted, filled⟩ := getElem?_allocate allocated
  have kept : current.length = length := (length_writes array writes).trans granted
  have read (index : Nat) (inside : index < length) :
      current.elements[index]? = some (held index) := by
    rw [getElem?_writes, filled index inside]
    rfl
  refine ⟨kept, fun index inside => get_of_read (read index inside), fun index outside => ?_,
    Surface.seq_get_eq current, fun place index value made inside => ?_, kept,
    fun index inside => ⟨held index, get_of_read (read index inside), read index inside⟩,
    fun index outside => ?_, rfl⟩
  · rw [get_of_outside (kept.symm ▸ outside), outOfRange, kept]
  · have before := getElem?_writes array (writes.take place) index
    rw [filled index inside] at before
    refine ⟨_, get_of_read before, ?_⟩
    rw [returned_writes made, LinearArray.write, replace_of_read before]
    rfl
  · have beyond : current.length ≤ index := kept.symm ▸ outside
    exact List.getElem?_eq_none beyond

-- A provider that counts its calls fills the array. The first write is out of range, the second is
-- replaced, and the last is out of range again.
theorem last_writer_wins_over_refused_writes :
    let counting : Provider Nat Nat := fun calls => (10 * calls, calls + 1)
    let array : LinearArray Nat := ⟨[10, 20, 30]⟩
    let writes : List (LinearArray.Write Nat) :=
      [.set 3 7, .set 1 8, .replace 1 9, .externSet 18446744073709551615 6]
    let told := array.writes writes
    ((LinearArray.allocate ⟨3⟩ 32 counting 3 1).1 = .ok array ∧
      told.2.get 0 = .ok 10 ∧ told.2.get 1 = .ok 9 ∧
      told.2.get 3 = .error (.indexOutOfRange 3 3)) ∧
    (writes[2]? = some (.replace 1 9) ∧
      ∃ element, (array.writes (writes.take 2)).2.get 1 = .ok element ∧
        told.1[2]? = some (.ok (some element))) ∧
    told.2.unleash.select? 3 = none := by
  intro counting array writes told
  have allocated : (LinearArray.allocate ⟨3⟩ 32 counting 3 1).1 = .ok array := rfl
  obtain ⟨_, inside, outside, _, replaced, _, _, beyond, _⟩ := last_writer_wins allocated writes
  refine ⟨⟨allocated, inside 0 (by decide), inside 1 (by decide), outside 3 (Nat.le_refl 3)⟩,
    ⟨rfl, replaced 2 1 9 rfl (by decide)⟩, beyond 3 (Nat.le_refl 3)⟩

end LinearStore
