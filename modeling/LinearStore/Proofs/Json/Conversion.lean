import LinearStore.Proofs.Json.Lexer
import LinearStore.Proofs.Json.Printer

set_option autoImplicit false

namespace LinearStore.Json

theorem Conversion.reread_of_makes {convert : Conversion} {n made : Number}
    (makes : convert.Makes n made) :
    convert.reread (.scalar (.number n)) = .scalar (.number made) := by
  obtain ⟨numeral, wellFormed, written⟩ := n.chars_are_numeral
  have scanned := Numeral.scan_chars_alone wellFormed
  rw [written] at scanned
  simp only [reread, numeralToken, scanned, makes numeral scanned]

section

variable {convert : Conversion} {f : Number → Number}

mutual

theorem reread_value (value : Json) (makes : ∀ n ∈ value.numbers, convert.Makes n (f n))
    (rest : List Token) :
    (value.withTokens rest).map convert.reread =
      (value.mapNumbers f).withTokens (rest.map convert.reread) := by
  cases value with
  | null | bool _ | string _ => rfl
  | number n =>
      rw [withTokens, List.map_cons, Conversion.reread_of_makes (makes n (List.mem_singleton_self n))]
      rfl
  | array items => exact congrArg (_ :: ·) (reread_items items makes rest)
  | object members => exact congrArg (_ :: ·) (reread_members members makes rest)

theorem reread_items (items : List Json) (makes : ∀ n ∈ itemsNumbers items, convert.Makes n (f n))
    (rest : List Token) :
    (itemTokens items rest).map convert.reread =
      itemTokens (mapItems f items) (rest.map convert.reread) := by
  match items with
  | [] => rfl
  | [item] => exact reread_value item (fun n member => makes n (List.mem_append_left _ member)) _
  | item :: next :: items =>
      have first := reread_value item fun n member => makes n (List.mem_append_left _ member)
      have later := reread_items (next :: items) fun n member => makes n (List.mem_append_right _ member)
      rw [itemTokens, first, List.map_cons, later]
      rfl

theorem reread_members (members : List (String × Json))
    (makes : ∀ n ∈ membersNumbers members, convert.Makes n (f n)) (rest : List Token) :
    (memberTokens members rest).map convert.reread =
      memberTokens (mapMembers f members) (rest.map convert.reread) := by
  match members with
  | [] => rfl
  | [(_, value)] =>
      have first := reread_value value fun n member => makes n (List.mem_append_left _ member)
      rw [memberTokens, List.map_cons, List.map_cons, first]
      rfl
  | (_, value) :: next :: members =>
      have first := reread_value value fun n member => makes n (List.mem_append_left _ member)
      have later := reread_members (next :: members)
        fun n member => makes n (List.mem_append_right _ member)
      rw [memberTokens, List.map_cons, List.map_cons, first, List.map_cons, later]
      rfl

end

theorem reread_tokens {value : Json} (makes : ∀ n ∈ value.numbers, convert.Makes n (f n)) :
    value.tokens.map convert.reread = (value.mapNumbers f).tokens :=
  reread_value value makes []

end

section

variable (convert : Conversion) (value : Json)

theorem tokenize_by_compact : convert.tokenize value.compact = value.tokens.map convert.reread := by
  refine tokens_of_lexes ?_
  rw [compact, String.toList_ofList]
  exact lexes_value value trivial lexes_nil

theorem tokenize_by_line (isIndented : Bool) :
    convert.tokenize ((if isIndented then value.indented else value.compact) ++ "\n") =
      value.tokens.map convert.reread := by
  have lineEnd : Lexes convert ['\n'] [] := lexes_blank lexes_nil rfl
  have ends : Numeral.Ends ['\n'] := Numeral.ends_cons (by decide)
  refine tokens_of_lexes ?_
  cases isIndented with
  | true =>
      have written : (value.indented ++ "\n").toList = value.writeIndented 0 ['\n'] := by
        rw [String.toList_append, indented, String.toList_ofList]
        exact (write_indented_append 0 value [] ['\n']).symm
      exact written ▸ lexes_indented 0 value ends lineEnd
  | false =>
      have written : (value.compact ++ "\n").toList = value.write ['\n'] := by
        rw [String.toList_append, compact, String.toList_ofList]
        exact (write_append value [] ['\n']).symm
      exact written ▸ lexes_value value ends lineEnd

end

theorem next_token_of_numeral {c : Char} (starts : c = '-' ∨ Numeral.isDigit c = true)
    (rest : List Char) : nextToken c rest = numeralToken (c :: rest) := by
  unfold nextToken
  split
  case h_11 => rw [if_pos starts]
  all_goals simp [Numeral.isDigit] at starts

theorem tokens_within_value (steps : Nat) (chars : List Char) :
    Conversion.tokensWithin Numeral.value steps chars = tokensWithin steps chars := by
  induction steps generalizing chars with
  | zero => rfl
  | succ steps step =>
      cases chars with
      | nil => rfl
      | cons c rest =>
          have token : Conversion.nextToken Numeral.value c rest = nextToken c rest := by
            rw [Conversion.nextToken]
            split
            · rename_i starts
              exact (next_token_of_numeral starts rest).symm
            · rfl
          simp only [Conversion.tokensWithin, tokensWithin, token, step]

theorem tokenize_value (text : String) : Conversion.tokenize Numeral.value text = tokenize text :=
  tokens_within_value _ _

theorem value_makes_word {n : Number} (word : n.isWord = true) :
    Conversion.Makes Numeral.value n n := by
  cases n with
  | float value => cases word
  | int value =>
      intro numeral scanned
      have own := Numeral.scan_chars_alone (Number.int_numeral_well_formed value)
      rw [Number.int_numeral_chars] at own
      rw [Number.chars, own] at scanned
      cases scanned
      exact Number.value_int_numeral word

theorem reread_whole {value : Json} (whole : value.isWhole = true) :
    value.tokens.map (Conversion.reread Numeral.value) = value.tokens := by
  have makes : ∀ n ∈ value.numbers, Conversion.Makes Numeral.value n (id n) :=
    fun n member => value_makes_word (numbers_whole value whole n member)
  rw [reread_tokens makes, map_numbers_id]

theorem tokenize_compact {value : Json} (whole : value.isWhole = true) :
    tokenize value.compact = value.tokens := by
  rw [← tokenize_value, tokenize_by_compact, reread_whole whole]

end LinearStore.Json
