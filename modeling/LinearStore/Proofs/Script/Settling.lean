import LinearStore.Proofs.Json.Settling
import LinearStore.Proofs.Script.Sorted

set_option autoImplicit false

namespace LinearStore

open Json (Settles SettlesMember failData)

namespace Argument

theorem of_json_eq_ok_iff {type : FieldType} {value : Json} {argument : Argument Json} :
    ofJson type value = .ok argument ↔ argument.type = type ∧ argument.json = value := by
  constructor
  · intro converted
    unfold ofJson at converted
    split at converted
    case h_1 | h_2 =>
      cases converted
      exact ⟨rfl, rfl⟩
    case h_4 value =>
      split at converted
      · rename_i inside
        cases converted
        have below : value.toNat < UInt64.size := by
          have size : (Int.ofNat UInt64.size) = (UInt64.size : Int) := rfl
          omega
        have same : ((UInt64.ofNat value.toNat).toNat : Int) = value := by
          rw [UInt64.toNat_ofNat_of_lt' below]
          omega
        exact ⟨rfl, congrArg (fun number => Json.number (.int number)) same⟩
      · cases converted
    all_goals cases converted
  · rintro ⟨rfl, rfl⟩
    exact argument.of_json_json

end Argument

namespace Op

def ofJson : Json → Except ParseError Op
  | .string name =>
      match ofText? name with
      | some op => .ok op
      | none => failData (.unknownVariant name (all.map text))
  | value => failData (.invalidType (Argument.found value) "variant identifier")

theorem of_json_eq_ok_iff {value : Json} {op : Op} :
    ofJson value = .ok op ↔ value = .string op.text := by
  constructor
  · intro named
    unfold ofJson at named
    split at named
    · split at named
      · rename_i found
        cases named
        rw [text_of_of_text found]
      · cases named
    · cases named
  · rintro rfl
    rw [ofJson, of_text_text]

theorem of_json_arranged (value : Json) : ofJson value.arranged = ofJson value := by
  cases value <;> rfl

theorem settles_op (document : Json) : Settles Step.readOp document (ofJson document) := by
  intro rest
  cases document with
  | string name =>
      simp only [Json.withTokens, Step.readOp, Json.readString, bind, Except.bind, ofJson]
      cases ofText? name <;> rfl
  | null | bool _ | number _ | array _ | object _ => rfl

end Op

namespace Step

def Draft.absorb (draft : Draft) (member : String × Json) : Except ParseError Draft :=
  if member.1 = "op" then
    if draft.op.isSome then failData (.duplicateField "op")
    else (Op.ofJson member.2).map fun op => { draft with op := some op }
  else .ok { draft with members := draft.members ++ [member] }

def ofObject (members : List (String × Json)) : Except ParseError (Step Json) := do
  let draft ← members.foldlM Draft.absorb {}
  match draft.op with
  | none => failData (.missingField "op")
  | some op => ofMembers op draft.members

def ofList : List Json → Except ParseError (Step Json)
  | [] => failData (.missingField "op")
  | first :: items => do ofItems (← Op.ofJson first) items

-- The step that a document stands for, wherever the document stands.
def ofJson : Json → Except ParseError (Step Json)
  | .object members => ofObject (Json.arrangedMembers members)
  | .array items => ofList (Json.arrangedItems items)
  | value => failData (.invalidType (Argument.found value) "internally tagged enum Step")

section Reading

variable {levels : Nat}

theorem settles_draft_member {entry : String × Json} (shallow : entry.2.depth ≤ levels) :
    SettlesMember (readDraftMember levels)
      (fun draft entry => draft.absorb (entry.1, entry.2.arranged)) entry := by
  intro draft rest
  by_cases tag : entry.1 = "op"
  · simp only [readDraftMember, if_pos tag, Draft.absorb]
    split
    · rfl
    · have settled := Op.settles_op entry.2 rest
      rw [Op.of_json_arranged]
      simp only [Json.readColon, bind, Except.bind, settled]
      cases Op.ofJson entry.2 <;> rfl
  · have read := Json.reads_value entry.2 shallow rest
    simp only [readDraftMember, if_neg tag, Draft.absorb, Json.readColon, bind, Except.bind, read,
      Except.map]

theorem settles_named {members : List (String × Json)} (shallow : Json.membersDepth members ≤ levels)
    (rest : List Token) :
    readNamed levels (Json.memberTokens members rest) =
      (ofObject (Json.arrangedMembers members)).map fun step => (step, rest) := by
  have each : ∀ entry ∈ members, SettlesMember (readDraftMember levels)
      (fun draft entry => draft.absorb (entry.1, entry.2.arranged)) entry := fun entry inside =>
    settles_draft_member (Nat.le_trans (Json.depth_le_members_depth inside) shallow)
  rw [readNamed, Json.settles_object_body each, ofObject, Json.arranged_members_eq_map,
    List.foldlM_map]
  simp only [bind, Except.bind]
  cases members.foldlM (fun draft entry => Draft.absorb draft (entry.1, entry.2.arranged)) {} with
  | error error => rfl
  | ok draft =>
      obtain ⟨op, seen⟩ := draft
      cases op with
      | none => rfl
      | some op => cases converted : ofMembers op seen <;> simp [Except.map, converted]

theorem settles_listed {items : List Json} (shallow : Json.itemsDepth items ≤ levels)
    (rest : List Token) :
    readListed levels (Json.itemTokens items rest) =
      (ofList (Json.arrangedItems items)).map fun step => (step, rest) := by
  cases items with
  | nil => rfl
  | cons first items =>
      rw [Json.itemsDepth, Nat.max_le] at shallow
      have settled := Op.settles_op first (Json.laterItemTokens items rest)
      rw [readListed, Json.item_tokens_eq, Json.arrangedItems, ofList, Op.of_json_arranged]
      simp only [Json.start_of_value, bind, Except.bind, settled]
      cases Op.ofJson first with
      | error error => rfl
      | ok op =>
          have each := Json.reads_items items shallow.2
          simp only [Except.map]
          cases items with
          | nil =>
              simp only [Json.laterItemTokens, Json.readContinuation, if_true, Json.arrangedItems]
          | cons second items =>
              have enough : (second :: items).length ≤
                  (Json.itemTokens (second :: items) rest).length :=
                Nat.le_of_lt_succ (Nat.lt_of_le_of_lt (Nat.le_add_right _ _)
                  (Json.length_lt_item_tokens (second :: items) rest))
              have read := Json.read_items each (List.cons_ne_nil _ _) enough rest
              obtain ⟨tokens, same⟩ := Json.item_tokens_cons second items rest
              rw [same] at read
              simp only [Json.laterItemTokens, same, Json.continuation_of_value, read]

theorem settles_read {document : Json} (shallow : document.depth ≤ levels) :
    Settles (read levels) document (ofJson document) := by
  intro rest
  cases document with
  | null | bool _ | number _ | string _ => cases levels <;> rfl
  | array items =>
      cases levels with
      | zero => cases shallow
      | succ levels => exact settles_listed (Nat.le_of_succ_le_succ shallow) rest
  | object members =>
      cases levels with
      | zero => cases shallow
      | succ levels => exact settles_named (Nat.le_of_succ_le_succ shallow) rest

end Reading

end Step

end LinearStore
