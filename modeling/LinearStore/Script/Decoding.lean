import LinearStore.Json.Record
import LinearStore.Script.Encoding

set_option autoImplicit false

namespace LinearStore

open Json (fail failData mismatch)

namespace Limits

def maxSlotsField : Json.Field (Option UInt64) where
  name := "maxSlots"
  isSet := Option.isSome
  read := fun _ tokens => (Json.readWord tokens).map fun found => (some found.1, found.2)

def record : Json.Record (Option UInt64) Limits where
  title := "struct Limits"
  start := none
  fields := [maxSlotsField]
  complete := fun
    | some maxSlots => .ok ⟨maxSlots⟩
    | none => .ok {}

def read (medium : Json.Medium) (levels : Nat) : Reader Limits :=
  Json.Record.read medium (fun _ => record) levels

end Limits

namespace Config

structure Draft where
  defaultValue : Option Json := none
  limits : Option Limits := none
  strictFree : Option Bool := none
deriving DecidableEq, Repr

namespace Draft

def defaultValueField (levels : Nat) : Json.Field Draft where
  name := "defaultValue"
  isSet := fun draft => draft.defaultValue.isSome
  read := fun draft tokens => (Json.readValue levels tokens).map fun found =>
    ({ draft with defaultValue := some found.1 }, found.2)

def limitsField (medium : Json.Medium) (levels : Nat) : Json.Field Draft where
  name := "limits"
  isSet := fun draft => draft.limits.isSome
  read := fun draft tokens => (Limits.read medium levels tokens).map fun found =>
    ({ draft with limits := some found.1 }, found.2)

def strictFreeField : Json.Field Draft where
  name := "strictFree"
  isSet := fun draft => draft.strictFree.isSome
  read := fun draft tokens => (Json.readBool tokens).map fun found =>
    ({ draft with strictFree := some found.1 }, found.2)

def complete (draft : Draft) : Config Json :=
  ⟨draft.defaultValue.getD .null, draft.limits.getD {}, draft.strictFree.getD false⟩

end Draft

def record (medium : Json.Medium) (levels : Nat) : Json.Record Draft (Config Json) where
  title := "struct SessionConfig"
  start := {}
  fields :=
    [Draft.defaultValueField levels, Draft.limitsField medium levels, Draft.strictFreeField]
  complete := fun draft => .ok draft.complete

def read (medium : Json.Medium) (levels : Nat) : Reader (Config Json) :=
  Json.Record.read medium (record medium) levels

end Config

namespace Argument

def found : Json → Found
  | .null => .scalar .null
  | .bool value => .scalar (.bool value)
  | .number value => .scalar (.number value)
  | .string value => .scalar (.string value)
  | .array _ => .sequence
  | .object _ => .map

def ofJson : FieldType → Json → Except DataError (Argument Json)
  | .payload, value => .ok (.payload value)
  | .binding, .string name => .ok (.binding name)
  | .binding, value => .error (.invalidType (found value) "a string")
  | .word, .number (.int value) =>
      if 0 ≤ value ∧ value < Int.ofNat UInt64.size then .ok (.word (UInt64.ofNat value.toNat))
      else .error (.invalidValue (.scalar (.number (.int value))) "u64")
  | .word, value => .error (.invalidType (found value) "u64")

end Argument

namespace Step

def elementCount (count : Nat) : String :=
  if count = 1 then "1 element" else s!"{count} elements"

def namedArguments (fields : List (String × FieldType)) (seen : List (String × Argument Json)) :
    List (String × Json) → Except DataError (List (String × Argument Json))
  | [] => .ok seen
  | (key, value) :: rest =>
      match lookupName key fields with
      | none => namedArguments fields seen rest
      | some type =>
          if (lookupName key seen).isSome then .error (.duplicateField key)
          else
            match Argument.ofJson type value with
            | .error error => .error error
            | .ok argument => namedArguments fields (seen ++ [(key, argument)]) rest

def collectArguments (seen : List (String × Argument Json)) :
    List (String × FieldType) → Except DataError (List (Argument Json))
  | [] => .ok []
  | (key, _) :: fields =>
      match lookupName key seen with
      | none => .error (.missingField key)
      | some argument => (collectArguments seen fields).map (argument :: ·)

-- Converts values to arguments in the order of the fields; `place` counts the fields before.
def listedArguments (op : Op) (place : Nat) :
    List (String × FieldType) → List Json → Except DataError (List (Argument Json))
  | [], [] => .ok []
  | [], value :: rest =>
      .error (.invalidLength (place + (value :: rest).length)
        (elementCount place ++ " in sequence"))
  | _ :: _, [] =>
      .error (.invalidLength place
        ("struct variant Step::" ++ op.title ++ " with " ++ elementCount op.fields.length))
  | (_, type) :: fields, value :: rest =>
      match Argument.ofJson type value with
      | .error error => .error error
      | .ok argument => (listedArguments op (place + 1) fields rest).map (argument :: ·)

def ofConverted (op : Op) (arguments : Except DataError (List (Argument Json))) :
    Except ParseError (Step Json) :=
  match arguments with
  | .error error => failData error
  | .ok arguments =>
      match ofArguments? op arguments with
      | some step => .ok step
      | none => failData (.missingField "op")

def ofMembers (op : Op) (members : List (String × Json)) : Except ParseError (Step Json) :=
  ofConverted op (do collectArguments (← namedArguments op.fields [] members) op.fields)

def ofItems (op : Op) (items : List Json) : Except ParseError (Step Json) :=
  ofConverted op (listedArguments op 0 op.fields items)

def readOp (tokens : List Token) : Except ParseError (Op × List Token) := do
  let (name, rest) ← Json.readString "variant identifier" tokens
  match Op.ofText? name with
  | some op => .ok (op, rest)
  | none => failData (.unknownVariant name (Op.all.map Op.text))

structure Draft where
  op : Option Op := none
  members : List (String × Json) := []

def readDraftMember (levels : Nat) (draft : Draft) (key : String) (tokens : List Token) :
    Except ParseError (Draft × List Token) :=
  if key = "op" then
    if draft.op.isSome then failData (.duplicateField "op")
    else do
      let tokens ← Json.readColon tokens
      let (op, rest) ← readOp tokens
      .ok ({ draft with op := some op }, rest)
  else do
    let tokens ← Json.readColon tokens
    let (value, rest) ← Json.readValue levels tokens
    .ok ({ draft with members := draft.members ++ [(key, value)] }, rest)

def readNamed (levels : Nat) (tokens : List Token) :
    Except ParseError (Step Json × List Token) := do
  let (draft, rest) ← Json.readObjectBody (readDraftMember levels) {} tokens
  match draft.op with
  | none => failData (.missingField "op")
  | some op =>
      let step ← ofMembers op draft.members
      .ok (step, rest)

def readListed (levels : Nat) (tokens : List Token) :
    Except ParseError (Step Json × List Token) := do
  match ← Json.readStart .list tokens with
  | .finished _ => failData (.missingField "op")
  | .more tokens =>
      let (op, tokens) ← readOp tokens
      let (items, rest) ← match ← Json.readContinuation .list tokens with
        | .finished rest => Except.ok ([], rest)
        | .more tokens => Json.readItems (Json.readValue levels) tokens.length tokens
      let step ← ofItems op items
      .ok (step, rest)

def read : Nat → Reader (Step Json)
  | levels + 1, .opening .list :: rest => readListed levels rest
  | levels + 1, .opening .object :: rest => readNamed levels rest
  | 0, .opening _ :: _ => fail .recursionLimitExceeded
  | _, tokens => mismatch "internally tagged enum Step" tokens

end Step

namespace Script

structure Draft where
  config : Option (Config Json) := none
  steps : Option (List (Step Json)) := none
deriving DecidableEq, Repr

namespace Draft

def configField (levels : Nat) : Json.Field Draft where
  name := "config"
  isSet := fun draft => draft.config.isSome
  read := fun draft tokens => (Config.read .text levels tokens).map fun found =>
    ({ draft with config := some found.1 }, found.2)

def stepsField (levels : Nat) : Json.Field Draft where
  name := "steps"
  isSet := fun draft => draft.steps.isSome
  read := fun draft tokens => (Json.readList Step.read levels tokens).map fun found =>
    ({ draft with steps := some found.1 }, found.2)

def complete (draft : Draft) : Except Json.Missing (Script Json) :=
  match draft.steps with
  | some steps => .ok ⟨draft.config.getD ⟨.null, {}, false⟩, steps⟩
  | none => .error ⟨1, "steps"⟩

end Draft

def record (levels : Nat) : Json.Record Draft (Script Json) where
  title := "struct Script"
  start := {}
  fields := [Draft.configField levels, Draft.stepsField levels]
  complete := Draft.complete

def read (levels : Nat) : Reader (Script Json) := Json.Record.read .text record levels

end Script

namespace Slot

variable {α : Type}

def ofVariant (name : String) : Except ParseError Bool :=
  if name = "full" then .ok true
  else if name = "empty" then .ok false
  else failData (.unknownVariant name ["full", "empty"])

def readContent (value : Reader α) (isFull : Bool) (tokens : List Token) :
    Except ParseError (Slot α × List Token) :=
  if isFull then (value tokens).map fun found => (.full found.1, found.2)
  else (Json.readUnit tokens).map fun found => (.empty, found.2)

def readNamed (value : Reader α) (tokens : List Token) :
    Except ParseError (Slot α × List Token) := do
  match ← Json.readStart .object tokens with
  | .finished _ => fail .expectedValue
  | .more tokens =>
      let (name, tokens) ← Json.readKey tokens
      let isFull ← ofVariant name
      let tokens ← Json.readColon tokens
      let (slot, tokens) ← readContent value isFull tokens
      match tokens with
      | .closing .object :: rest => .ok (slot, rest)
      | [] => fail .endInObject
      | _ :: _ => fail .expectedValue

-- An empty slot may be written as its name alone.
def ofBare (name : String) : Except ParseError (Slot α) := do
  if ← ofVariant name then failData (.invalidType .unitVariant "newtype variant")
  else .ok .empty

def read (value : Reader α) : Nat → Reader (Slot α)
  | _ + 1, .opening .object :: rest => readNamed value rest
  | 0, .opening .object :: _ => fail .recursionLimitExceeded
  | _, .scalar (.string name) :: rest => (ofBare name).map fun slot => (slot, rest)
  | _, .faulty true onRead _ :: _ => fail onRead
  | _, [] => fail .endInValue
  | _, _ :: _ => fail .expectedValue

end Slot

namespace Sequence

variable {α : Type}

def read (value : Reader α) (levels : Nat) (tokens : List Token) :
    Except ParseError (Sequence α × List Token) :=
  (Json.readList (fun _ => value) levels tokens).map fun found => (⟨found.1⟩, found.2)

end Sequence

def Script.parse (text : String) : Except ParseError (Script Json) :=
  Json.parseWith Script.read text

def Step.parse (text : String) : Except ParseError (Step Json) := Json.parseWith Step.read text

def Config.parse (text : String) : Except ParseError (Config Json) :=
  Json.parseWith (Config.read .text) text

def Limits.parse (text : String) : Except ParseError Limits :=
  Json.parseWith (Limits.read .text) text

def Slot.parse (text : String) : Except ParseError (Slot Int64) :=
  Json.parseWith (Slot.read Json.readInt64) text

def Sequence.parse (text : String) : Except ParseError (Sequence Int64) :=
  Json.parseWith (Sequence.read Json.readInt64) text

def Step.ofDocument (document : Json) : Except ParseError (Step Json) :=
  (Step.read Json.levelLimit document.tokens).map Prod.fst

def Config.ofDocument (document : Json) : Except ParseError (Config Json) :=
  (Config.read .document Json.levelLimit document.tokens).map Prod.fst

end LinearStore
