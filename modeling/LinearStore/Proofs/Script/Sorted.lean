import LinearStore.Proofs.Json.Yields
import LinearStore.Proofs.Script.Decoding

set_option autoImplicit false

namespace LinearStore

open Json (Yields except_bind_ok except_map_ok)

def Argument.Sorted (argument : Argument Json) : Prop :=
  ∀ value, argument.payload? = some value → value.isSorted = true

def Step.Sorted (step : Step Json) : Prop := ∀ value ∈ step.payloads, value.isSorted = true

def Script.Sorted (script : Script Json) : Prop := ∀ value ∈ script.payloads, value.isSorted = true

theorem Argument.of_json_sorted {type : FieldType} {value : Json} (sorted : value.isSorted = true)
    {argument : Argument Json} (converted : ofJson type value = .ok argument) : argument.Sorted := by
  intro payload held
  unfold ofJson at converted
  split at converted
  case h_1 =>
    cases converted
    cases held
    exact sorted
  case h_2 =>
    cases converted
    cases held
  case h_4 =>
    split at converted
    · cases converted
      cases held
    · cases converted
  all_goals cases converted

namespace Step

theorem arguments_of_arguments {op : Op} {arguments : List (Argument Json)} {step : Step Json}
    (made : ofArguments? op arguments = some step) : step.arguments = arguments := by
  unfold ofArguments? at made
  split at made
  all_goals cases made
  all_goals rfl

theorem named_arguments_sorted {fields : List (String × FieldType)}
    {seen : List (String × Argument Json)} (before : ∀ entry ∈ seen, entry.2.Sorted)
    {members : List (String × Json)} (sorted : ∀ member ∈ members, member.2.isSorted = true)
    {named : List (String × Argument Json)} (converted : namedArguments fields seen members = .ok named) :
    ∀ entry ∈ named, entry.2.Sorted := by
  induction members generalizing seen with
  | nil =>
      cases converted
      exact before
  | cons member members step =>
      have others := fun other inside => sorted other (List.mem_cons_of_mem _ inside)
      rw [namedArguments] at converted
      split at converted
      · exact step before others converted
      · split at converted
        · cases converted
        · split at converted
          · cases converted
          · rename_i argument made
            refine step (fun entry inside => ?_) others converted
            rcases List.mem_append.mp inside with old | new
            · exact before entry old
            · rw [List.mem_singleton.mp new]
              exact Argument.of_json_sorted (sorted member List.mem_cons_self) made

theorem collect_arguments_sorted {seen : List (String × Argument Json)}
    (before : ∀ entry ∈ seen, entry.2.Sorted) {fields : List (String × FieldType)}
    {arguments : List (Argument Json)} (collected : collectArguments seen fields = .ok arguments) :
    ∀ argument ∈ arguments, argument.Sorted := by
  induction fields generalizing arguments with
  | nil =>
      cases collected
      exact nofun
  | cons field fields step =>
      rw [collectArguments] at collected
      split at collected
      · cases collected
      · rename_i found
        obtain ⟨others, later, same⟩ := except_map_ok collected
        cases same
        intro argument inside
        rcases List.mem_cons.mp inside with rfl | rest
        · exact before _ (mem_of_lookup found)
        · exact step later argument rest

theorem listed_arguments_sorted {op : Op} {place : Nat} {fields : List (String × FieldType)}
    {items : List Json} (sorted : ∀ item ∈ items, item.isSorted = true)
    {arguments : List (Argument Json)} (listed : listedArguments op place fields items = .ok arguments) :
    ∀ argument ∈ arguments, argument.Sorted := by
  induction fields generalizing place items arguments with
  | nil =>
      cases items with
      | nil =>
          cases listed
          exact nofun
      | cons item items => cases listed
  | cons field fields step =>
      cases items with
      | nil => cases listed
      | cons item items =>
          rw [listedArguments] at listed
          split at listed
          · cases listed
          · rename_i made
            obtain ⟨others, later, same⟩ := except_map_ok listed
            cases same
            intro argument inside
            rcases List.mem_cons.mp inside with rfl | rest
            · exact Argument.of_json_sorted (sorted item List.mem_cons_self) made
            · exact step (fun other member => sorted other (List.mem_cons_of_mem _ member)) later
                argument rest

theorem of_converted_sorted {op : Op} {converted : Except DataError (List (Argument Json))}
    (each : ∀ arguments, converted = .ok arguments → ∀ argument ∈ arguments, argument.Sorted)
    {step : Step Json} (made : ofConverted op converted = .ok step) : step.Sorted := by
  unfold ofConverted at made
  split at made
  · cases made
  · rename_i arguments
    split at made
    · rename_i found
      cases made
      intro value held
      obtain ⟨argument, inside, payload⟩ := List.mem_filterMap.mp held
      rw [arguments_of_arguments found] at inside
      exact each arguments rfl argument inside value payload
    · cases made

theorem of_members_sorted {op : Op} {members : List (String × Json)}
    (sorted : ∀ member ∈ members, member.2.isSorted = true) {step : Step Json}
    (made : ofMembers op members = .ok step) : step.Sorted := by
  refine of_converted_sorted (fun arguments converted => ?_) made
  obtain ⟨named, given, collected⟩ := except_bind_ok converted
  exact collect_arguments_sorted (named_arguments_sorted (by simp) sorted given) collected

theorem of_items_sorted {op : Op} {items : List Json} (sorted : ∀ item ∈ items, item.isSorted = true)
    {step : Step Json} (made : ofItems op items = .ok step) : step.Sorted :=
  of_converted_sorted (fun _ listed => listed_arguments_sorted sorted listed) made

def Draft.Sorted (draft : Draft) : Prop := ∀ member ∈ draft.members, member.2.isSorted = true

theorem yields_draft_member (levels : Nat) (draft : Draft) (key : String) (sorted : draft.Sorted) :
    Yields Draft.Sorted (readDraftMember levels draft key) := by
  intro tokens next rest read
  unfold readDraftMember at read
  split at read
  · split at read
    · cases read
    · obtain ⟨left, _, read⟩ := except_bind_ok read
      obtain ⟨⟨op, left⟩, _, read⟩ := except_bind_ok read
      cases read
      exact sorted
  · obtain ⟨left, _, read⟩ := except_bind_ok read
    obtain ⟨⟨value, left⟩, taken, read⟩ := except_bind_ok read
    cases read
    intro member inside
    rcases List.mem_append.mp inside with old | new
    · exact sorted member old
    · rw [List.mem_singleton.mp new]
      exact Json.yields_sorted levels _ _ _ taken

theorem yields_named (levels : Nat) : Yields Sorted (readNamed levels) := by
  intro tokens step rest read
  obtain ⟨⟨draft, left⟩, taken, read⟩ := except_bind_ok read
  have empty : ({} : Draft).Sorted := nofun
  have sorted := Json.yields_object_body (yields_draft_member levels) empty _ _ _ taken
  simp only at read
  split at read
  · cases read
  · obtain ⟨made, converted, read⟩ := except_bind_ok read
    cases read
    exact of_members_sorted sorted converted

theorem yields_listed (levels : Nat) : Yields Sorted (readListed levels) := by
  intro tokens step rest read
  obtain ⟨continuation, _, read⟩ := except_bind_ok read
  cases continuation with
  | finished left => cases read
  | more left =>
      obtain ⟨⟨op, left⟩, _, read⟩ := except_bind_ok read
      obtain ⟨continuation, _, read⟩ := except_bind_ok read
      cases continuation with
      | finished left =>
          obtain ⟨⟨items, left⟩, same, read⟩ := except_bind_ok read
          cases same
          obtain ⟨made, converted, read⟩ := except_bind_ok read
          cases read
          exact of_items_sorted (by simp) converted
      | more left =>
          obtain ⟨⟨items, left⟩, taken, read⟩ := except_bind_ok read
          have sorted := Json.yields_items (Json.yields_sorted levels) _ _ _ _ taken
          obtain ⟨made, converted, read⟩ := except_bind_ok read
          cases read
          exact of_items_sorted sorted converted

theorem yields_sorted (levels : Nat) : Yields Sorted (read levels) := by
  intro tokens step rest taken
  unfold read at taken
  split at taken
  · exact yields_listed _ _ step rest taken
  · exact yields_named _ _ step rest taken
  · cases taken
  · exact absurd taken Json.mismatch_not_ok

end Step

namespace Config

def Draft.Sorted (draft : Draft) : Prop :=
  ∀ value, draft.defaultValue = some value → value.isSorted = true

theorem Draft.empty_sorted : ({} : Draft).Sorted := nofun

theorem yields_sorted (medium : Json.Medium) (levels : Nat) :
    Yields (fun config => config.defaultValue.isSorted = true) (read medium levels) := by
  refine Json.Record.yields_record Draft.Sorted ?fields (fun _ => Draft.empty_sorted) ?completes levels
  case fields =>
    intro levels field inside draft sorted tokens next rest read
    simp only [record, List.mem_cons, List.not_mem_nil, or_false] at inside
    rcases inside with rfl | rfl | rfl
    · obtain ⟨found, taken, same⟩ := except_map_ok read
      cases same
      intro value given
      cases given
      exact Json.yields_sorted levels _ _ _ taken
    all_goals
      obtain ⟨found, taken, same⟩ := except_map_ok read
      cases same
      exact sorted
  case completes =>
    intro levels draft config sorted completed
    cases completed
    cases given : draft.defaultValue with
    | none => simp [Draft.complete, given, Json.isSorted]
    | some value => simpa [Draft.complete, given] using sorted value given

end Config

namespace Script

structure Draft.Sorted (draft : Draft) : Prop where
  config : ∀ config, draft.config = some config → config.defaultValue.isSorted = true
  steps : ∀ steps, draft.steps = some steps → ∀ step ∈ steps, step.Sorted

theorem Draft.empty_sorted : ({} : Draft).Sorted := ⟨nofun, nofun⟩

theorem yields_sorted (levels : Nat) : Yields Sorted (read levels) := by
  refine Json.Record.yields_record Draft.Sorted ?fields (fun _ => Draft.empty_sorted) ?completes levels
  case fields =>
    intro levels field inside draft sorted tokens next rest read
    simp only [record, List.mem_cons, List.not_mem_nil, or_false] at inside
    rcases inside with rfl | rfl
    · obtain ⟨found, taken, same⟩ := except_map_ok read
      cases same
      refine ⟨fun config given => ?_, sorted.steps⟩
      cases given
      exact Config.yields_sorted .text levels _ _ _ taken
    · obtain ⟨found, taken, same⟩ := except_map_ok read
      cases same
      refine ⟨sorted.config, fun steps given => ?_⟩
      cases given
      exact Json.yields_list Step.yields_sorted levels _ _ _ taken
  case completes =>
    intro levels draft script sorted completed
    simp only [record, Draft.complete] at completed
    split at completed
    · rename_i steps given
      cases completed
      intro value held
      rcases List.mem_cons.mp held with rfl | later
      · cases given : draft.config with
        | none => rfl
        | some config => exact sorted.config config given
      · obtain ⟨step, inside, payload⟩ := List.mem_flatMap.mp later
        exact sorted.steps steps given step inside value payload
    · cases completed

theorem parse_sorted {text : String} {script : Script Json} (parsed : parse text = .ok script) :
    script.Sorted := by
  obtain ⟨⟨found, left⟩, taken, read⟩ := except_bind_ok parsed
  simp only at read
  split at read
  · cases read
    exact yields_sorted _ _ _ _ taken
  · cases read

end Script

end LinearStore
