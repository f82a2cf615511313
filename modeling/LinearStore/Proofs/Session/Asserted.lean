import LinearStore.Proofs.Contract.Asserted
import LinearStore.Session.Asserted

set_option autoImplicit false

namespace LinearStore

namespace Session

open Execution
open LinearStore.Asserted (bind_of_ok return_of_ok)

variable {α : Type}

theorem asserted_with_value_eq {γ : Type} (session : Session α) (value : Except Fault γ)
    {checked : γ → Asserted (Execution α)} {rest : γ → Execution α}
    (same : ∀ found, checked found = .ok (rest found)) :
    Asserted.withValue session value checked = .ok (withValue session value rest) := by
  cases value with
  | error fault => rfl
  | ok found => exact same found

variable [Allocator]

theorem asserted_perform_eq (session : Session α) (step : Step α) :
    Asserted.perform session step = .ok (session.perform step) := by
  cases step with
  | alloc name count => exact return_of_ok (LinearStore.Asserted.allocate_eq ..) _
  | allocInit name count value =>
      exact asserted_with_value_eq session _ fun _ =>
        return_of_ok (LinearStore.Asserted.allocate_init_eq ..) _
  | set name index value =>
      exact asserted_with_value_eq session _ fun (array, rest) =>
        return_of_ok (LinearStore.Asserted.set_eq ..) _
  | allocRaw name count => exact return_of_ok (LinearStore.Asserted.allocate_slots_eq ..) _
  | swapRaw name index source into =>
      exact asserted_with_value_eq session _ fun (array, rest) =>
        asserted_with_value_eq (rest.bind name (.lseq array)) _ fun (slot, rest) =>
          return_of_ok (LinearStore.Asserted.swap_eq ..) _
  | take name index =>
      exact asserted_with_value_eq session _ fun (array, rest) =>
        return_of_ok (LinearStore.Asserted.take_eq ..) _
  | put name index value =>
      exact asserted_with_value_eq session _ fun (array, rest) =>
        return_of_ok (LinearStore.Asserted.give_eq ..) _
  | _ => rfl

theorem asserted_execute_eq (session : Session α) (step : Step α) :
    Asserted.execute session step = .ok (session.execute step) := by
  rw [Asserted.execute, execute]
  cases step.validate session.state with
  | error violation => rfl
  | ok _ => exact return_of_ok (asserted_perform_eq session step) _

theorem asserted_run_from_eq (number : Nat) (session : Session α) (steps : List (Step α)) :
    Asserted.runFrom number session steps = .ok (session.runFrom number steps) := by
  induction steps generalizing number session with
  | nil => rfl
  | cons step rest run =>
      rw [Asserted.runFrom, runFrom, bind_of_ok (asserted_execute_eq session step)]
      cases (session.execute step).outcome with
      | error fault => rfl
      | ok answer => exact return_of_ok (run (number + 1) (session.execute step).session) _

theorem asserted_run_all_eq (session : Session α) (steps : List (Step α)) :
    Asserted.runAll session steps = .ok (session.runAll steps) := by
  induction steps generalizing session with
  | nil => rfl
  | cons step rest run =>
      rw [Asserted.runAll, bind_of_ok (asserted_execute_eq session step)]
      exact run (session.execute step).session

end Session

theorem SlotArray.describe_of_lt (unseen : Json) {array : SlotArray Json} {index : Nat}
    (inside : index < array.slots.length) :
    array.describe unseen index = array.slots[index].json id := by
  have shared : array.share index = .ok array.slots[index] := dif_pos inside
  rw [describe, shared]

theorem Binding.describe_eq (unseen : Json) (binding : Binding Json) :
    binding.describe unseen = binding.json := by
  cases binding with
  | seq _ | maybe _ | sequence _ => rfl
  | lseq array =>
      have slots : (List.range array.length).map (array.describe unseen) =
          array.slots.map (Slot.json id) := by
        refine List.ext_getElem (by simp [SlotArray.length]) fun index _ inside => ?_
        have below : index < array.slots.length := by
          rw [List.length_map] at inside
          exact inside
        rw [List.getElem_map, List.getElem_map, List.getElem_range,
          SlotArray.describe_of_lt unseen below]
      rw [describe, slots, json]

theorem Session.describe_eq (unseen : Json) (session : Session Json) :
    session.describe unseen = session.snapshot := by
  have same : Entry.describe unseen = Entry.json := by
    funext entry
    cases entry with
    | live binding => exact binding.describe_eq unseen
    | consumed op => rfl
  rw [describe, snapshot, same]

theorem checks_never_fire [Allocator] :
    (∀ {α : Type} (session : Session α) (steps : List (Step α)),
      Session.Asserted.run session steps = .ok (session.run steps) ∧
      Session.Asserted.runAll session steps = .ok (session.runAll steps)) ∧
    (∀ (session : Session Json) (unseen : Json), session.describe unseen = session.snapshot) ∧
    (∀ {σ α : Type} (elementBytes slotBytes : Nat) (registers : Registers σ α)
        (calls : List (Call σ α)),
      Registers.Asserted.replies elementBytes slotBytes registers calls =
        .ok (registers.replies elementBytes slotBytes calls)) ∧
    (∀ {α : Type} (fresh : Nat) (handle : Handle α) (lo hi : Nat),
      Asserted.subsequence fresh handle lo hi = .ok (handle.subsequence fresh lo hi)) :=
  ⟨fun session steps =>
      ⟨Session.asserted_run_from_eq 0 session steps, Session.asserted_run_all_eq session steps⟩,
    fun session unseen => session.describe_eq unseen,
    fun elementBytes slotBytes registers calls =>
      registers.asserted_replies_eq elementBytes slotBytes calls,
    Asserted.subsequence_eq⟩

end LinearStore
