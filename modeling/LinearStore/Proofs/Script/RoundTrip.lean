import LinearStore.Proofs.Script.Decoding

set_option autoImplicit false

namespace LinearStore

-- Words that are run together with capitals, in small letters with a line between them.
def Text.snakeCase (name : String) : String :=
  match name.toList with
  | [] => ""
  | first :: rest => String.ofList
      (first.toLower :: rest.flatMap fun c => if c.isUpper then ['_', c.toLower] else [c.toLower])

def Json.member? (name : String) : Json → Option Json
  | .object members => lookupName name members
  | _ => none

theorem Op.text_eq_snake_case (op : Op) : op.text = Text.snakeCase op.title := by
  cases op <;> decide +kernel

theorem Json.names_arranged_members (members : List (String × Json)) :
    (arrangedMembers members).map Prod.fst = members.map Prod.fst := by
  induction members with
  | nil => rfl
  | cons member members step => rw [arrangedMembers, List.map_cons, List.map_cons, step]

theorem Step.op_of_arranged (step : Step Json) :
    step.json.arranged.member? "op" = some (.string step.op.text) := by
  have names : (Json.arrangedMembers step.members).map Prod.fst = step.op.fields.map Prod.fst := by
    rw [Json.names_arranged_members, step.names_members]
  have absent : "op" ∉ (Json.arrangedMembers step.members).map Prod.fst :=
    names ▸ step.op.op_not_mem_field_names
  rw [Step.json_eq, Json.arranged, Json.arrangedMembers, Json.ofMembers, List.foldl_cons,
    Json.member?, lookup_fold_insert_ordered absent]
  rfl

theorem Script.steps_of_arranged (script : Script Json) :
    ∃ items, script.json.arranged.member? "steps" = some (.array items) ∧
      items.map (Json.member? "op") = script.steps.map fun step => some (.string step.op.text) := by
  refine ⟨Json.arrangedItems (script.steps.map Step.json), ?_, ?_⟩
  · simp only [json, Json.arranged, Json.arrangedMembers, Json.ofMembers, List.foldl_cons,
      List.foldl_nil, Json.member?, lookup_insert_ordered, if_true]
  · induction script.steps with
    | nil => rfl
    | cons step steps rest =>
        rw [List.map_cons, Json.arrangedItems, List.map_cons, List.map_cons, step.op_of_arranged, rest]

theorem written_documents_are_read_back :
    (∀ script : Script Json,
      (∀ value ∈ script.payloads, value.isWhole = true ∧ value.isSorted = true) →
      script.json.depth ≤ Json.levelLimit →
        Script.parse script.json.compact = .ok script ∧
        ∃ document items, Json.parse script.json.compact = .ok document ∧
          document.member? "steps" = some (.array items) ∧
          items.map (Json.member? "op") =
            script.steps.map fun step => some (.string step.op.text)) ∧
    (∀ op : Op, op.text = Text.snakeCase op.title) ∧
    (∀ step : Step Json,
      (∀ value ∈ step.payloads, value.isWhole = true ∧ value.isSorted = true) →
      step.json.depth ≤ Json.levelLimit → Step.parse step.json.compact = .ok step) ∧
    (∀ config : Config Json,
      config.defaultValue.isWhole = true → config.defaultValue.isSorted = true →
      config.json.depth ≤ Json.levelLimit → Config.parse config.json.compact = .ok config) ∧
    (∀ limits : Limits, Limits.parse limits.json.compact = .ok limits) ∧
    (∀ slot : Slot Int64, Slot.parse (slot.json Json.int64).compact = .ok slot) ∧
    (∀ sequence : Sequence Int64,
      Sequence.parse (sequence.json Json.int64).compact = .ok sequence) := by
  refine ⟨fun script plain shallow => ⟨?script, ?operations⟩, Op.text_eq_snake_case,
    fun step plain shallow => ?step, fun config whole sorted shallow => ?config,
    fun limits => ?limits, fun slot => ?slot, fun sequence => ?sequence⟩
  case script =>
    have whole := Script.json_whole fun value given => (plain value given).1
    exact Json.parse_with_compact whole
      (Script.reads_json (fun value given => (plain value given).2) shallow)
  case operations =>
    have whole := Script.json_whole fun value given => (plain value given).1
    obtain ⟨items, found, operations⟩ := script.steps_of_arranged
    exact ⟨_, items, Json.parse_compact whole shallow, found, operations⟩
  case step =>
    have whole := Step.json_whole fun value given => (plain value given).1
    exact Json.parse_with_compact whole
      (Step.reads_json (fun value given => (plain value given).2) shallow)
  case config =>
    exact Json.parse_with_compact (Config.json_whole whole) (Config.reads_json .text sorted shallow)
  case limits =>
    have shallow : limits.json.depth ≤ Json.levelLimit := by
      simp [Limits.json, Json.nat, Json.depth, Json.membersDepth, Json.levelLimit]
    exact Json.parse_with_compact limits.json_whole (limits.reads_json .text shallow)
  case slot =>
    have shallow : (slot.json Json.int64).depth ≤ Json.levelLimit :=
      Nat.le_trans (slot.depth_json_le fun _ => Nat.le_refl 0) (by decide)
    exact Json.parse_with_compact (slot.json_whole Json.int_whole)
      (slot.reads_json Json.reads_int shallow)
  case sequence =>
    have shallow : (sequence.json Json.int64).depth ≤ Json.levelLimit :=
      Nat.le_trans (sequence.depth_json_le fun _ => Nat.le_refl 0) (by decide)
    exact Json.parse_with_compact (sequence.json_whole Json.int_whole)
      (sequence.reads_json Json.reads_int shallow)

-- Payloads that nest, the extremes of words and integers, and names that have to be escaped.
def nestedConfig : Config Json where
  defaultValue := .object
    [("", .array [.null, .bool false, .nat (UInt64.size - 1)]), ("\x01", .string "\\\x22\t𝄞")]
  limits := ⟨0⟩
  strictFree := true

def nestedStep : Step Json :=
  .allocInit "a\n\x22é" (UInt64.ofNat (UInt64.size - 1))
    (.array [.object [("full", .number (.int Int64.minValue.toInt))], .string "empty"])

def nestedScript : Script Json := ⟨nestedConfig, [nestedStep, .swapRaw "q" 0 "from" "\x00"]⟩

theorem written_documents_are_read_back_when_nested :
    Script.parse nestedScript.json.compact = .ok nestedScript ∧
      Step.parse nestedStep.json.compact = .ok nestedStep ∧
      Config.parse nestedConfig.json.compact = .ok nestedConfig :=
  have ⟨script, _, step, config, _⟩ := written_documents_are_read_back
  ⟨(script nestedScript (by decide) (by decide)).1, step nestedStep (by decide) (by decide),
    config nestedConfig (by decide) (by decide) (by decide)⟩

end LinearStore
