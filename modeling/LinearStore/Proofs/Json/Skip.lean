import LinearStore.Json.Skip
import LinearStore.Proofs.Json.Lexer

set_option autoImplicit false

namespace LinearStore.Json

def resume : List Enclosure → List Token → Except ParseError (List Token)
  | [], rest => .ok rest
  | enclosing, rest => skipFrom ⟨.separator, enclosing⟩ rest

theorem skip_scalar (value : Scalar) (enclosing : List Enclosure) (rest : List Token) :
    skipFrom ⟨.value, enclosing⟩ (.scalar value :: rest) = resume enclosing rest := by
  cases enclosing <;> rfl

theorem skip_end (enclosure : Enclosure) (enclosing : List Enclosure) (rest : List Token) :
    skipFrom ⟨.separator, enclosure :: enclosing⟩ (.closing enclosure :: rest) =
      resume enclosing rest := by
  cases enclosure <;> cases enclosing <;> rfl

theorem skip_empty (enclosure : Enclosure) (enclosing : List Enclosure) (rest : List Token) :
    skipFrom ⟨.inside, enclosure :: enclosing⟩ (.closing enclosure :: rest) =
      resume enclosing rest := by
  cases enclosure <;> cases enclosing <;> rfl

theorem skip_first_item (item : Json) (enclosing : List Enclosure) (rest : List Token) :
    skipFrom ⟨.inside, .list :: enclosing⟩ (item.withTokens rest) =
      skipFrom ⟨.value, .list :: enclosing⟩ (item.withTokens rest) := by
  cases item <;> rfl

mutual

theorem skip_from_value (value : Json) (enclosing : List Enclosure) (rest : List Token) :
    skipFrom ⟨.value, enclosing⟩ (value.withTokens rest) = resume enclosing rest := by
  cases value with
  | null | bool _ | number _ | string _ => exact skip_scalar _ enclosing rest
  | array items => exact skip_from_items items enclosing rest
  | object members => exact skip_from_members members enclosing rest

theorem skip_from_items (items : List Json) (enclosing : List Enclosure) (rest : List Token) :
    skipFrom ⟨.inside, .list :: enclosing⟩ (itemTokens items rest) = resume enclosing rest := by
  match items with
  | [] => exact skip_empty .list enclosing rest
  | item :: items =>
      rw [item_tokens_eq, skip_first_item, skip_from_value]
      exact skip_from_later_items items enclosing rest

theorem skip_from_later_items (items : List Json) (enclosing : List Enclosure) (rest : List Token) :
    skipFrom ⟨.separator, .list :: enclosing⟩ (laterItemTokens items rest) =
      resume enclosing rest := by
  match items with
  | [] => exact skip_end .list enclosing rest
  | item :: items =>
      rw [laterItemTokens, item_tokens_eq]
      exact (skip_from_value item _ _).trans (skip_from_later_items items enclosing rest)

theorem skip_from_members (members : List (String × Json)) (enclosing : List Enclosure)
    (rest : List Token) :
    skipFrom ⟨.inside, .object :: enclosing⟩ (memberTokens members rest) =
      resume enclosing rest := by
  match members with
  | [] => exact skip_empty .object enclosing rest
  | (name, value) :: members =>
      rw [member_tokens_eq]
      exact (skip_from_value value _ _).trans (skip_from_later_members members enclosing rest)

theorem skip_from_later_members (members : List (String × Json)) (enclosing : List Enclosure)
    (rest : List Token) :
    skipFrom ⟨.separator, .object :: enclosing⟩ (laterMemberTokens members rest) =
      resume enclosing rest := by
  match members with
  | [] => exact skip_end .object enclosing rest
  | (name, value) :: members =>
      rw [laterMemberTokens, member_tokens_eq]
      exact (skip_from_value value _ _).trans (skip_from_later_members members enclosing rest)

end

theorem skip_value (value : Json) (rest : List Token) :
    skipValue (value.withTokens rest) = .ok rest :=
  skip_from_value value [] rest

end LinearStore.Json
