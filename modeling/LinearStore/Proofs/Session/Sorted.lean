import LinearStore.CommandLine.Program
import LinearStore.Proofs.Script.Sorted
import LinearStore.Proofs.Session.Payloads

set_option autoImplicit false

namespace LinearStore

-- A value in order is left alone, and any other one gives way to one that is.
def Json.keptSorted (value : Json) : Json := if value.isSorted then value else .null

namespace Json

theorem kept_sorted_sorted (value : Json) : value.keptSorted.isSorted = true := by
  rw [keptSorted]
  split
  · assumption
  · rfl

theorem kept_sorted_of_sorted {value : Json} (sorted : value.isSorted = true) :
    value.keptSorted = value := if_pos sorted

theorem members_sorted_cons {name : String} {value : Json} {members : List (String × Json)}
    (first : value.isSorted = true) (others : membersSorted members = true) :
    membersSorted ((name, value) :: members) = true := by
  rw [membersSorted, first, others]
  rfl

theorem object_sorted {members : List (String × Json)}
    (names : (members.map Prod.fst).Pairwise (· < ·)) (each : membersSorted members = true) :
    (object members).isSorted = true := by
  rw [isSorted, Bool.and_eq_true, decide_eq_true_eq]
  exact ⟨List.pairwise_map.mp names, each⟩

theorem array_map_sorted {α : Type} {json : α → Json} {items : List α}
    (each : ∀ item ∈ items, (json item).isSorted = true) : (array (items.map json)).isSorted = true := by
  rw [isSorted, are_sorted_iff]
  intro item inside
  obtain ⟨held, member, rfl⟩ := List.mem_map.mp inside
  exact each held member

theorem kept_all_sorted (values : List Json) : (array (values.map keptSorted)).isSorted = true :=
  array_map_sorted fun value _ => kept_sorted_sorted value

end Json

open Json (object_sorted members_sorted_cons)

theorem Slot.json_sorted (slot : Slot Json) : ((slot.map Json.keptSorted).json id).isSorted = true := by
  cases slot with
  | empty => rfl
  | full content =>
      exact object_sorted (List.pairwise_singleton _ _)
        (members_sorted_cons (Json.kept_sorted_sorted content) rfl)

theorem Answer.json_sorted (answer : Answer Json) :
    (answer.map Json.keptSorted).json.isSorted = true := by
  cases answer with
  | element value => exact Json.kept_sorted_sorted value
  | elements values => exact Json.kept_all_sorted values
  | count n => rfl
  | slot content => exact content.json_sorted

theorem Outcome.json_sorted (outcome : Outcome Json) :
    (outcome.map Json.keptSorted).json.isSorted = true := by
  obtain ⟨step, op, answer⟩ := outcome
  cases answer with
  | none => exact object_sorted (show ["op", "step"].Pairwise (· < ·) by decide) rfl
  | some answer =>
      exact object_sorted (show ["op", "step", "value"].Pairwise (· < ·) by decide)
        (members_sorted_cons rfl (members_sorted_cons rfl (members_sorted_cons answer.json_sorted rfl)))

theorem StepFailure.json_sorted (failure : StepFailure) : failure.json.isSorted = true :=
  object_sorted (show ["error", "op", "step"].Pairwise (· < ·) by decide) rfl

theorem Binding.json_sorted (binding : Binding Json) :
    (binding.map Json.keptSorted).json.isSorted = true := by
  have elementsKind : ["elements", "kind"].Pairwise (· < ·) := by decide
  cases binding with
  | seq array =>
      have elements := Json.kept_all_sorted array.elements
      exact object_sorted elementsKind (members_sorted_cons elements rfl)
  | sequence contents =>
      have elements : ((contents.map Json.keptSorted).json id).isSorted = true := by
        rw [Sequence.json, List.map_id]
        exact Json.kept_all_sorted contents.elements
      exact object_sorted elementsKind (members_sorted_cons elements rfl)
  | lseq array =>
      have slots : (Json.array ((array.map Json.keptSorted).slots.map (Slot.json id))).isSorted = true := by
        refine Json.array_map_sorted fun slot inside => ?_
        obtain ⟨before, _, rfl⟩ := List.mem_map.mp inside
        exact before.json_sorted
      exact object_sorted (show ["kind", "slots"].Pairwise (· < ·) by decide)
        (members_sorted_cons rfl (members_sorted_cons slots rfl))
  | maybe slot =>
      exact object_sorted (show ["kind", "slot"].Pairwise (· < ·) by decide)
        (members_sorted_cons rfl (members_sorted_cons slot.json_sorted rfl))

theorem Entry.json_sorted (entry : Entry Json) :
    (entry.map Json.keptSorted).json.isSorted = true := by
  cases entry with
  | live binding => exact binding.json_sorted
  | consumed op => rfl

theorem Session.snapshot_sorted (session : Session Json) :
    (session.map Json.keptSorted).snapshot.isSorted = true := by
  rw [snapshot, Json.isSorted, Bool.and_eq_true, decide_eq_true_eq, Json.members_sorted_iff]
  refine ⟨Table.ordered _, fun member inside => ?_⟩
  simp only [map, Table.map, List.map_map, List.mem_map] at inside
  obtain ⟨entry, _, rfl⟩ := inside
  exact entry.2.json_sorted

theorem Step.map_of_payloads {f : Json → Json} {step : Step Json}
    (kept : ∀ value ∈ step.payloads, f value = value) : step.map f = step := by
  cases step <;> simp_all [payloads, arguments, Argument.payload?, map]

theorem CommandLine.report_document_sorted {bindings : Option Json}
    (described : ∀ snapshot, bindings = some snapshot → snapshot.isSorted = true)
    (report : Report Json) : (reportDocument bindings (report.map Json.keptSorted)).isSorted = true := by
  have outcomes : (Json.array ((report.map Json.keptSorted).outcomes.map Outcome.json)).isSorted = true := by
    refine Json.array_map_sorted fun outcome inside => ?_
    obtain ⟨before, _, rfl⟩ := List.mem_map.mp inside
    exact before.json_sorted
  obtain ⟨told, failure⟩ := report
  cases bindings with
  | none =>
      cases failure with
      | none => exact object_sorted (List.pairwise_singleton _ _) (members_sorted_cons outcomes rfl)
      | some failure =>
          exact object_sorted (show ["failure", "outcomes"].Pairwise (· < ·) by decide)
            (members_sorted_cons failure.json_sorted (members_sorted_cons outcomes rfl))
  | some snapshot =>
      have first := described snapshot rfl
      cases failure with
      | none =>
          exact object_sorted (show ["bindings", "outcomes"].Pairwise (· < ·) by decide)
            (members_sorted_cons first (members_sorted_cons outcomes rfl))
      | some failure =>
          exact object_sorted (show ["bindings", "failure", "outcomes"].Pairwise (· < ·) by decide)
            (members_sorted_cons first
              (members_sorted_cons failure.json_sorted (members_sorted_cons outcomes rfl)))

section

variable [Allocator] {config : Config Json} {steps : List (Step Json)}
  (value : config.defaultValue.isSorted = true) (payloads : ∀ step ∈ steps, step.Sorted)

include value payloads

theorem Session.run_kept_sorted :
    ((Session.new config).run steps).report =
        ((Session.new config).run steps).report.map Json.keptSorted ∧
      ((Session.new config).run steps).session =
        ((Session.new config).run steps).session.map Json.keptSorted := by
  have kept : steps.map (Step.map Json.keptSorted) = steps := by
    refine (List.map_congr_left fun step inside => ?_).trans (List.map_id steps)
    exact Step.map_of_payloads fun value held => Json.kept_sorted_of_sorted (payloads step inside value held)
  have start : (Session.new config).map Json.keptSorted = Session.new config := by
    rw [Session.new, Session.map, Config.map, Json.kept_sorted_of_sorted value]
    rfl
  have mapped := Session.run_from_map Json.keptSorted 0 (Session.new config) steps
  rw [start, kept] at mapped
  exact mapped

theorem CommandLine.run_document_sorted (isBound : Bool) :
    (reportDocument (if isBound then some ((Session.new config).run steps).session.snapshot else none)
      ((Session.new config).run steps).report).isSorted = true := by
  obtain ⟨report, session⟩ := Session.run_kept_sorted value payloads
  rw [report]
  refine report_document_sorted (fun snapshot given => ?_) _
  cases isBound with
  | false => cases given
  | true =>
      cases given
      rw [session]
      exact Session.snapshot_sorted _

end

end LinearStore
