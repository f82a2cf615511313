import LinearStore.Json.Reader
import LinearStore.Proofs.Decimal.Shortest
import LinearStore.Proofs.Json.Text

set_option autoImplicit false

namespace LinearStore.Json

-- What a conversion makes of a token: a number that is written counts as its numeral.
def Conversion.reread (convert : Conversion) : Token → Token
  | .scalar (.number n) => (convert.numeralToken n.chars).1
  | token => token

-- The tokens of a text, whatever number of steps its lexer is given beyond those it needs.
def Lexes (convert : Conversion) (chars : List Char) (tokens : List Token) : Prop :=
  ∀ steps, chars.length ≤ steps → convert.tokensWithin steps chars = tokens.map convert.reread

theorem tokens_of_lexes {convert : Conversion} {text : String} {tokens : List Token}
    (lexes : Lexes convert text.toList tokens) : convert.tokenize text = tokens.map convert.reread :=
  lexes _ (Nat.le_refl _)

section

variable {convert : Conversion}

theorem lexes_nil : Lexes convert [] [] := by
  intro steps _
  cases steps <;> rfl

theorem lexes_token {c : Char} {rest left : List Char} {token : Token} {tokens : List Token}
    (visible : isBlank c = false) (found : convert.nextToken c rest = (convert.reread token, left))
    (passable : (convert.reread token).isImpassable = false) (shorter : left.length ≤ rest.length)
    (later : Lexes convert left tokens) : Lexes convert (c :: rest) (token :: tokens) := by
  intro steps enough
  cases steps with
  | zero => cases enough
  | succ steps =>
      have within : left.length ≤ steps := Nat.le_trans shorter (Nat.le_of_succ_le_succ enough)
      simp only [Conversion.tokensWithin, visible, found, passable, Bool.false_eq_true, if_false,
        later steps within, List.map_cons]

section

variable {rest : List Char} {tokens : List Token} (later : Lexes convert rest tokens)

include later

theorem lexes_blank {c : Char} (blank : isBlank c = true) : Lexes convert (c :: rest) tokens := by
  intro steps enough
  cases steps with
  | zero => cases enough
  | succ steps =>
      simp only [Conversion.tokensWithin, blank, if_true]
      exact later steps (Nat.le_of_succ_le_succ enough)

theorem lexes_space : Lexes convert (' ' :: rest) tokens := lexes_blank later rfl

theorem lexes_new_line (depth : Nat) : Lexes convert (newLine depth rest) tokens := by
  have spaces : ∀ count, Lexes convert (List.replicate count ' ' ++ rest) tokens := by
    intro count
    induction count with
    | zero => exact later
    | succ count step => exact lexes_space step
  exact lexes_blank (spaces (2 * depth)) rfl

theorem lexes_comma : Lexes convert (',' :: rest) (.comma :: tokens) :=
  lexes_token rfl rfl rfl (Nat.le_refl _) later

theorem lexes_colon : Lexes convert (':' :: rest) (.colon :: tokens) :=
  lexes_token rfl rfl rfl (Nat.le_refl _) later

theorem lexes_list_end : Lexes convert (']' :: rest) (.closing .list :: tokens) :=
  lexes_token rfl rfl rfl (Nat.le_refl _) later

theorem lexes_object_end : Lexes convert ('\x7d' :: rest) (.closing .object :: tokens) :=
  lexes_token rfl rfl rfl (Nat.le_refl _) later

theorem lexes_string (text : String) :
    Lexes convert (writeString text rest) (.scalar (.string text) :: tokens) := by
  have shorter : rest.length ≤
      (text.toList.foldr (fun c tail => escapeChar c ++ tail) ('"' :: rest)).length :=
    Nat.le_trans (Nat.le_succ _) (length_written text.toList ('"' :: rest))
  exact lexes_token rfl (text_token_written text rest) rfl shorter later

omit later in
theorem not_blank_of_starts {c : Char} (starts : c = '-' ∨ Numeral.isDigit c = true) :
    isBlank c = false := by
  cases blank : isBlank c with
  | false => rfl
  | true =>
      simp only [isBlank, Bool.or_eq_true, beq_iff_eq] at blank
      rcases blank with ((rfl | rfl) | rfl) | rfl <;> simp [Numeral.isDigit] at starts

omit later in
theorem numeral_chars_eq_cons {numeral : Numeral} (wellFormed : numeral.WellFormed) :
    ∃ c chars, (c = '-' ∨ Numeral.isDigit c = true) ∧ numeral.chars = c :: chars := by
  obtain ⟨first, others, digit, written⟩ := Numeral.unsigned_chars_eq_cons wellFormed
  cases negative : numeral.negative with
  | true => exact ⟨'-', numeral.unsignedChars, Or.inl rfl, by simp [Numeral.chars, negative]⟩
  | false => exact ⟨first, others, Or.inr digit, by simp [Numeral.chars, negative, written]⟩

omit later in
theorem numeral_token_append (convert : Conversion) (number : Number) (ends : Numeral.Ends rest) :
    convert.numeralToken (number.chars ++ rest) = ((convert.numeralToken number.chars).1, rest) ∧
      (convert.numeralToken number.chars).1.isImpassable = false := by
  obtain ⟨numeral, wellFormed, written⟩ := number.chars_are_numeral
  have followed := Numeral.scan_chars wellFormed ends
  have alone := Numeral.scan_chars_alone wellFormed
  rw [written] at followed alone
  simp only [Conversion.numeralToken, followed, alone]
  cases convert numeral with
  | ok value => exact ⟨rfl, rfl⟩
  | error error => exact ⟨rfl, rfl⟩

theorem lexes_number (number : Number) (ends : Numeral.Ends rest) :
    Lexes convert (number.chars ++ rest) (.scalar (.number number) :: tokens) := by
  obtain ⟨numeral, wellFormed, written⟩ := number.chars_are_numeral
  obtain ⟨c, chars, starts, first⟩ := numeral_chars_eq_cons wellFormed
  obtain ⟨token, passable⟩ := numeral_token_append convert number ends
  have spelt : number.chars = c :: chars := written.symm.trans first
  have found : convert.nextToken c (chars ++ rest) = ((convert.numeralToken number.chars).1, rest) := by
    rw [spelt, List.cons_append] at token
    rw [Conversion.nextToken, if_pos starts, token, spelt]
  have shorter : rest.length ≤ (chars ++ rest).length := by
    rw [List.length_append]
    exact Nat.le_add_left _ _
  rw [spelt, List.cons_append]
  exact lexes_token (not_blank_of_starts starts) found passable shorter later

end

mutual

theorem lexes_value (value : Json) {rest : List Char} {tokens : List Token}
    (ends : Numeral.Ends rest) (later : Lexes convert rest tokens) :
    Lexes convert (value.write rest) (value.withTokens tokens) := by
  cases value with
  | null => exact lexes_token rfl rfl rfl (Nat.le_add_right _ 3) later
  | bool value =>
      cases value with
      | true => exact lexes_token rfl rfl rfl (Nat.le_add_right _ 3) later
      | false => exact lexes_token rfl rfl rfl (Nat.le_add_right _ 4) later
  | number number => exact lexes_number later number ends
  | string text => exact lexes_string later text
  | array items => exact lexes_token rfl rfl rfl (Nat.le_refl _) (lexes_items items later)
  | object members => exact lexes_token rfl rfl rfl (Nat.le_refl _) (lexes_members members later)

theorem lexes_items (items : List Json) {rest : List Char} {tokens : List Token}
    (later : Lexes convert rest tokens) :
    Lexes convert (writeItems items rest) (itemTokens items tokens) := by
  match items with
  | [] => exact lexes_list_end later
  | [item] => exact lexes_value item (Numeral.ends_cons (by decide)) (lexes_list_end later)
  | item :: next :: items =>
      have following := lexes_comma (lexes_items (next :: items) later)
      exact lexes_value item (Numeral.ends_cons (by decide)) following

theorem lexes_members (members : List (String × Json)) {rest : List Char} {tokens : List Token}
    (later : Lexes convert rest tokens) :
    Lexes convert (writeMembers members rest) (memberTokens members tokens) := by
  match members with
  | [] => exact lexes_object_end later
  | [(name, value)] =>
      have read := lexes_value value (Numeral.ends_cons (by decide)) (lexes_object_end later)
      exact lexes_string (lexes_colon read) name
  | (name, value) :: next :: members =>
      have following := lexes_comma (lexes_members (next :: members) later)
      have read := lexes_value value (Numeral.ends_cons (by decide)) following
      exact lexes_string (lexes_colon read) name

end

def laterItemTokens (items : List Json) (rest : List Token) : List Token :=
  match items with
  | [] => .closing .list :: rest
  | _ :: _ => .comma :: itemTokens items rest

def laterMemberTokens (members : List (String × Json)) (rest : List Token) : List Token :=
  match members with
  | [] => .closing .object :: rest
  | _ :: _ => .comma :: memberTokens members rest

theorem item_tokens_eq (item : Json) (items : List Json) (rest : List Token) :
    itemTokens (item :: items) rest = item.withTokens (laterItemTokens items rest) := by
  cases items <;> rfl

theorem member_tokens_eq (name : String) (value : Json) (members : List (String × Json))
    (rest : List Token) :
    memberTokens ((name, value) :: members) rest =
      .scalar (.string name) :: .colon :: value.withTokens (laterMemberTokens members rest) := by
  cases members <;> rfl

theorem ends_items_indented (depth : Nat) (items : List Json) (rest : List Char) :
    Numeral.Ends (writeItemsIndented depth items rest) := by
  cases items <;> exact Numeral.ends_cons (by decide)

theorem ends_members_indented (depth : Nat) (members : List (String × Json)) (rest : List Char) :
    Numeral.Ends (writeMembersIndented depth members rest) := by
  cases members <;> exact Numeral.ends_cons (by decide)

mutual

theorem lexes_indented (depth : Nat) (value : Json) {rest : List Char} {tokens : List Token}
    (ends : Numeral.Ends rest) (later : Lexes convert rest tokens) :
    Lexes convert (value.writeIndented depth rest) (value.withTokens tokens) := by
  match value with
  | .null | .bool _ | .number _ | .string _ => exact lexes_value _ ends later
  | .array [] => exact lexes_value (.array []) ends later
  | .object [] => exact lexes_value (.object []) ends later
  | .array (item :: items) =>
      rw [withTokens, item_tokens_eq]
      have following := lexes_items_indented depth items later
      have first := lexes_indented (depth + 1) item (ends_items_indented depth items rest) following
      exact lexes_token rfl rfl rfl (Nat.le_refl _) (lexes_new_line first (depth + 1))
  | .object ((name, value) :: members) =>
      rw [withTokens, member_tokens_eq]
      have following := lexes_members_indented depth members later
      have first := lexes_indented (depth + 1) value (ends_members_indented depth members rest) following
      have member := lexes_string (lexes_colon (lexes_space first)) name
      exact lexes_token rfl rfl rfl (Nat.le_refl _) (lexes_new_line member (depth + 1))

theorem lexes_items_indented (depth : Nat) (items : List Json) {rest : List Char}
    {tokens : List Token} (later : Lexes convert rest tokens) :
    Lexes convert (writeItemsIndented depth items rest) (laterItemTokens items tokens) := by
  match items with
  | [] => exact lexes_new_line (lexes_list_end later) depth
  | item :: items =>
      rw [laterItemTokens, item_tokens_eq]
      have following := lexes_items_indented depth items later
      have first := lexes_indented (depth + 1) item (ends_items_indented depth items rest) following
      exact lexes_comma (lexes_new_line first (depth + 1))

theorem lexes_members_indented (depth : Nat) (members : List (String × Json)) {rest : List Char}
    {tokens : List Token} (later : Lexes convert rest tokens) :
    Lexes convert (writeMembersIndented depth members rest) (laterMemberTokens members tokens) := by
  match members with
  | [] => exact lexes_new_line (lexes_object_end later) depth
  | (name, value) :: members =>
      rw [laterMemberTokens, member_tokens_eq]
      have following := lexes_members_indented depth members later
      have first := lexes_indented (depth + 1) value (ends_members_indented depth members rest) following
      have member := lexes_string (lexes_colon (lexes_space first)) name
      exact lexes_comma (lexes_new_line member (depth + 1))

end

end

end LinearStore.Json
