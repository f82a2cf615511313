import LinearStore.Fault

set_option autoImplicit false

namespace LinearStore

def inspectRecord (name : String) (fields : List (String × String)) : String :=
  name ++ " \x7b " ++ ", ".intercalate (fields.map fun field => field.1 ++ ": " ++ field.2) ++ " \x7d"

def Violation.inspect : Violation → String
  | .peekEmpty => "PeekEmpty"
  | .unwrapEmpty => "UnwrapEmpty"
  | .slotOccupied index => inspectRecord "SlotOccupied" [("index", toString index)]
  | .slotEmpty index => inspectRecord "SlotEmpty" [("index", toString index)]
  | .freeWithOccupiedSlots occupied =>
      inspectRecord "FreeWithOccupiedSlots" [("occupied", toString occupied)]
  | .useAfterConsume name op =>
      inspectRecord "UseAfterConsume"
        [("name", Text.quoted name), ("consumed_by", Text.quoted op.text)]
  | .unknownBinding name => inspectRecord "UnknownBinding" [("name", Text.quoted name)]
  | .kindMismatch name expected found =>
      inspectRecord "KindMismatch"
        [("name", Text.quoted name), ("expected", Text.quoted expected.text),
          ("found", Text.quoted found.text)]
  | .shadowed name kind =>
      inspectRecord "Shadowed" [("name", Text.quoted name), ("kind", Text.quoted kind.text)]

def Fault.inspect : Fault → String
  | .indexOutOfRange index length =>
      inspectRecord "IndexOutOfRange" [("index", toString index), ("length", toString length)]
  | .allocation requested reason =>
      inspectRecord "Allocation"
        [("requested", toString requested), ("reason", Text.quoted reason.message)]
  | .contractViolation violation => "ContractViolation(" ++ violation.inspect ++ ")"

def Rejected.inspect {ρ : Type} (rejected : Rejected ρ) : String :=
  "Rejected \x7b error: " ++ rejected.fault.inspect ++ ", .. \x7d"

end LinearStore
