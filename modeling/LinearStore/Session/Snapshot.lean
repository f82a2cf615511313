import LinearStore.Script.Encoding
import LinearStore.Session.Run

set_option autoImplicit false

namespace LinearStore

def Binding.json : Binding Json → Json
  | seq array => .object [("elements", .array array.elements), ("kind", .string "seq")]
  | lseq array =>
      .object [("kind", .string "lseq"), ("slots", .array (array.slots.map (Slot.json id)))]
  | maybe slot => .object [("kind", .string "maybe"), ("slot", slot.json id)]
  | sequence contents => .object [("elements", contents.json id), ("kind", .string "sequence")]

def Entry.json : Entry Json → Json
  | live binding => binding.json
  | consumed op => .object [("consumedBy", .string op.text)]

def Session.snapshot (session : Session Json) : Json :=
  .object (session.bindings.map Entry.json).entries

def Answer.json : Answer Json → Json
  | element value => value
  | elements values => .array values
  | count n => .nat n
  | slot content => content.json id

def Outcome.json (outcome : Outcome Json) : Json :=
  .object ([("op", .string outcome.op.text), ("step", .nat outcome.step)] ++
    (outcome.answer.map fun answer => ("value", answer.json)).toList)

def StepFailure.json (failure : StepFailure) : Json :=
  .object
    [("error", .string failure.fault.message), ("op", .string failure.op.text),
      ("step", .nat failure.step)]

def Report.members (report : Report Json) : List (String × Json) :=
  (report.failure.map fun failure => ("failure", failure.json)).toList ++
    [("outcomes", .array (report.outcomes.map Outcome.json))]

def Report.json (report : Report Json) : Json := .object report.members

end LinearStore
