import LinearStore.Allocation
import LinearStore.Proofs.Session.Execution
import LinearStore.Session.Snapshot
import Mathlib.Data.List.Basic

set_option autoImplicit false

namespace LinearStore

theorem Op.text_injective : Function.Injective Op.text := by
  intro left right same
  have found : some left = some right := by rw [← of_text_text, ← of_text_text, same]
  exact Option.some.inj found

-- The description of a full slot is an object, so no payload makes it that of an empty one.
theorem Slot.json_injective {α : Type} {value : α → Json} (injective : Function.Injective value) :
    Function.Injective (Slot.json value) := by
  intro left right same
  cases left with
  | full content =>
      cases right with
      | full other =>
          have contents : value content = value other := by simpa [Slot.json] using same
          rw [injective contents]
      | empty => simp [Slot.json] at same
  | empty =>
      cases right with
      | full other => simp [Slot.json] at same
      | empty => rfl

theorem Binding.json_injective : Function.Injective Binding.json := by
  have slots : Function.Injective (Slot.json (id : Json → Json)) :=
    Slot.json_injective Function.injective_id
  intro left right same
  cases left with
  | seq array =>
      cases right with
      | seq other =>
          have elements : array.elements = other.elements := by simpa [json] using same
          exact congrArg (fun elements => seq ⟨elements⟩) elements
      | lseq | maybe | sequence => simp [json] at same
  | lseq array =>
      cases right with
      | lseq other =>
          have described : array.slots.map (Slot.json id) = other.slots.map (Slot.json id) := by
            simpa [json] using same
          have equal := List.map_injective_iff.mpr slots described
          exact congrArg (fun slots => lseq ⟨slots⟩) equal
      | seq | maybe | sequence => simp [json] at same
  | maybe slot =>
      cases right with
      | maybe other =>
          have described : slot.json id = other.json id := by simpa [json] using same
          exact congrArg maybe (slots described)
      | seq | lseq | sequence => simp [json] at same
  | sequence contents =>
      cases right with
      | sequence other =>
          have elements : contents.elements = other.elements := by
            simpa [json, Sequence.json] using same
          exact congrArg (fun elements => sequence ⟨elements⟩) elements
      | seq | lseq | maybe => simp [json] at same

theorem Entry.json_injective : Function.Injective Entry.json := by
  intro left right same
  cases left with
  | live binding =>
      cases right with
      | live other => exact congrArg live (Binding.json_injective same)
      | consumed op => cases binding <;> simp [json, Binding.json] at same
  | consumed op =>
      cases right with
      | live other => cases other <;> simp [json, Binding.json] at same
      | consumed other =>
          have texts : op.text = other.text := by simpa [json] using same
          rw [Op.text_injective texts]

theorem Table.map_injective {β γ : Type} {f : β → γ} (injective : Function.Injective f) :
    Function.Injective (Table.map f) := by
  intro left right same
  ext1 name
  have found := congrArg (fun table => table.find? name) same
  simp only [find_map] at found
  exact Option.map_injective injective found

theorem Session.bindings_of_snapshot {left right : Session Json}
    (described : left.snapshot = right.snapshot) : left.bindings = right.bindings := by
  apply Table.map_injective Entry.json_injective
  have entries := Json.object.inj described
  cases mapped : left.bindings.map Entry.json
  cases mapped' : right.bindings.map Entry.json
  rw [mapped, mapped'] at entries
  cases entries
  rfl

theorem snapshots_are_complete [Allocator] {left right : Session Json}
    (configured : left.config = right.config) (described : left.snapshot = right.snapshot) :
    left.bindings = right.bindings ∧
    ∀ steps, (left.run steps).report = (right.run steps).report ∧
      (left.run steps).session.snapshot = (right.run steps).session.snapshot := by
  have bindings := Session.bindings_of_snapshot described
  have same : left = right := Session.bindings_eq configured bindings
  refine ⟨bindings, fun steps => ?_⟩
  rw [same]
  exact ⟨rfl, rfl⟩

-- Two histories with one outcome. The slot holds a payload that looks like the description of an empty
-- slot, which is not how the session with the empty slot is described.
theorem snapshots_are_complete_after_detours :
    let start : Session Json := .new ⟨.string "empty", {}, true⟩
    let left := start.runAll [.alloc "s" 1, .give "m" (.string "empty"), .empty "old", .discard "old"]
    let right := start.runAll [.give "old" .null, .discard "old", .give "m" (.string "empty"),
      .unwrap "n", .allocInit "s" 1 (.string "empty")]
    let vacant := start.runAll [.alloc "s" 1, .empty "m", .empty "old", .discard "old"]
    let steps : List (Step Json) := [.allocRaw "l" 1, .swapRaw "l" 0 "m" "m", .take "l" 0, .peek "m"]
    left.config = right.config ∧ left.snapshot = right.snapshot ∧
    left.snapshot ≠ vacant.snapshot ∧
    (left.run steps).report = (right.run steps).report ∧
    (left.run steps).session.snapshot = (right.run steps).session.snapshot := by
  intro start left right vacant steps
  have configured : left.config = right.config := by decide +kernel
  have described : left.snapshot = right.snapshot := by decide +kernel
  have distinct : left.snapshot ≠ vacant.snapshot := by decide +kernel
  exact ⟨configured, described, distinct, (snapshots_are_complete configured described).2 steps⟩

end LinearStore
