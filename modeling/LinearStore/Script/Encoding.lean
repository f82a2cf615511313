import LinearStore.Cells
import LinearStore.Json.Basic
import LinearStore.Script.Basic
import LinearStore.Script.Step
import LinearStore.Sequence

set_option autoImplicit false

namespace LinearStore

inductive Argument (α : Type) where
  | binding (name : String)
  | word (value : UInt64)
  | payload (value : α)
deriving DecidableEq, Repr

namespace Argument

variable {α : Type}

def type : Argument α → FieldType
  | binding _ => .binding
  | word _ => .word
  | payload _ => .payload

end Argument

namespace Step

variable {α : Type}

def arguments : Step α → List (Argument α)
  | alloc name count => [.binding name, .word count]
  | allocInit name count value => [.binding name, .word count, .payload value]
  | get seq index => [.binding seq, .word index]
  | set seq index value => [.binding seq, .word index, .payload value]
  | length seq => [.binding seq]
  | free seq => [.binding seq]
  | unleash seq into => [.binding seq, .binding into]
  | select sequence index => [.binding sequence, .word index]
  | give name value => [.binding name, .payload value]
  | empty name => [.binding name]
  | peek maybe => [.binding maybe]
  | unwrap maybe => [.binding maybe]
  | discard maybe => [.binding maybe]
  | allocRaw name count => [.binding name, .word count]
  | lengthRaw lseq => [.binding lseq]
  | swapRaw lseq index source into =>
      [.binding lseq, .word index, .binding source, .binding into]
  | shareRaw lseq index => [.binding lseq, .word index]
  | take lseq index => [.binding lseq, .word index]
  | put lseq index value => [.binding lseq, .word index, .payload value]
  | freeRaw lseq => [.binding lseq]
  | freeLseq lseq => [.binding lseq]

def ofArguments? : Op → List (Argument α) → Option (Step α)
  | .alloc, [.binding name, .word count] => some (alloc name count)
  | .allocInit, [.binding name, .word count, .payload value] => some (allocInit name count value)
  | .get, [.binding seq, .word index] => some (get seq index)
  | .set, [.binding seq, .word index, .payload value] => some (set seq index value)
  | .length, [.binding seq] => some (length seq)
  | .free, [.binding seq] => some (free seq)
  | .unleash, [.binding seq, .binding into] => some (unleash seq into)
  | .select, [.binding sequence, .word index] => some (select sequence index)
  | .give, [.binding name, .payload value] => some (give name value)
  | .empty, [.binding name] => some (empty name)
  | .peek, [.binding maybe] => some (peek maybe)
  | .unwrap, [.binding maybe] => some (unwrap maybe)
  | .discard, [.binding maybe] => some (discard maybe)
  | .allocRaw, [.binding name, .word count] => some (allocRaw name count)
  | .lengthRaw, [.binding lseq] => some (lengthRaw lseq)
  | .swapRaw, [.binding lseq, .word index, .binding source, .binding into] =>
      some (swapRaw lseq index source into)
  | .shareRaw, [.binding lseq, .word index] => some (shareRaw lseq index)
  | .take, [.binding lseq, .word index] => some (take lseq index)
  | .put, [.binding lseq, .word index, .payload value] => some (put lseq index value)
  | .freeRaw, [.binding lseq] => some (freeRaw lseq)
  | .freeLseq, [.binding lseq] => some (freeLseq lseq)
  | _, _ => none

theorem of_arguments_arguments (step : Step α) :
    ofArguments? step.op step.arguments = some step := by
  cases step <;> rfl

theorem types_arguments (step : Step α) :
    step.arguments.map Argument.type = step.op.fields.map Prod.snd := by
  cases step <;> rfl

end Step

def Argument.json : Argument Json → Json
  | binding name => .string name
  | word value => .nat value.toNat
  | payload value => value

def Step.json (step : Step Json) : Json :=
  .object (("op", .string step.op.text) ::
    (step.op.fields.map Prod.fst).zip (step.arguments.map Argument.json))

def Limits.json (limits : Limits) : Json := .object [("maxSlots", .nat limits.maxSlots.toNat)]

def Config.json (config : Config Json) : Json :=
  .object
    [("defaultValue", config.defaultValue), ("limits", config.limits.json),
      ("strictFree", .bool config.strictFree)]

def Script.json (script : Script Json) : Json :=
  .object [("config", script.config.json), ("steps", .array (script.steps.map Step.json))]

def Slot.json {α : Type} (value : α → Json) : Slot α → Json
  | full content => .object [("full", value content)]
  | empty => .string "empty"

def Sequence.json {α : Type} (value : α → Json) (sequence : Sequence α) : Json :=
  .array (sequence.elements.map value)

def Json.int64 (value : Int64) : Json := .number (.int value.toInt)

end LinearStore
