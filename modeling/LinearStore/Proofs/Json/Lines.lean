import LinearStore.Proofs.Decimal.Shortest
import LinearStore.Proofs.Text.Lines

set_option autoImplicit false

namespace LinearStore

theorem Numeral.break_not_mem_chars {numeral : Numeral} (wellFormed : numeral.WellFormed) :
    '\n' ∉ numeral.chars := by
  have digits : ∀ {chars : List Char}, Numeral.AreDigits chars → '\n' ∉ chars :=
    fun all broken => absurd (all _ broken) (by decide)
  have fraction : '\n' ∉ Numeral.fractionChars numeral.fraction := by
    have unbroken := digits wellFormed.fraction
    cases written : numeral.fraction with
    | nil => exact List.not_mem_nil
    | cons first others =>
        rw [written] at unbroken
        simpa [Numeral.fractionChars] using unbroken
  have exponent : '\n' ∉ Numeral.exponentChars numeral.exponent := by
    cases written : numeral.exponent with
    | none => exact List.not_mem_nil
    | some signed =>
        obtain ⟨negative, power⟩ := signed
        have unbroken := digits (wellFormed.exponent negative power written).2
        cases negative <;> simpa [Numeral.exponentChars] using unbroken
  have unsigned : '\n' ∉ numeral.unsignedChars := by
    simp only [Numeral.unsignedChars, List.mem_append, not_or]
    exact ⟨digits wellFormed.whole, fraction, exponent⟩
  rw [Numeral.chars]
  split
  · simpa using unsigned
  · exact unsigned

namespace Json

theorem break_not_mem_number (number : Number) : '\n' ∉ number.chars := by
  obtain ⟨numeral, wellFormed, written⟩ := number.chars_are_numeral
  rw [← written]
  exact Numeral.break_not_mem_chars wellFormed

theorem break_ne_digit_char (n : Nat) : '\n' ≠ hexDigit n := by
  have digits : ∀ d < 16, '\n' ≠ Nat.digitChar d := by decide
  exact digits (n % 16) (Nat.mod_lt n (by decide))

theorem break_not_mem_escape_char (c : Char) : '\n' ∉ escapeChar c := by
  unfold escapeChar
  split
  case h_8 notBreak _ _ =>
    split
    · simp [break_ne_digit_char]
    · simpa using Ne.symm notBreak
  all_goals decide

theorem break_of_write_string {text : String} {rest : List Char}
    (broken : '\n' ∈ writeString text rest) : '\n' ∈ rest := by
  simpa [writeString, break_not_mem_escape_char] using broken

mutual

theorem break_of_write (value : Json) {rest : List Char} (broken : '\n' ∈ value.write rest) :
    '\n' ∈ rest := by
  match value with
  | .null | .bool true | .bool false => simpa [write] using broken
  | .number n =>
      rw [write, List.mem_append] at broken
      exact broken.resolve_left (break_not_mem_number n)
  | .string text => exact break_of_write_string broken
  | .array items => exact break_of_write_items items (List.mem_of_ne_of_mem (by decide) broken)
  | .object members =>
      exact break_of_write_members members (List.mem_of_ne_of_mem (by decide) broken)

theorem break_of_write_items (items : List Json) {rest : List Char}
    (broken : '\n' ∈ writeItems items rest) : '\n' ∈ rest := by
  match items with
  | [] => exact List.mem_of_ne_of_mem (by decide) broken
  | [item] => exact List.mem_of_ne_of_mem (by decide) (break_of_write item broken)
  | item :: next :: items =>
      have later := break_of_write item broken
      exact break_of_write_items (next :: items) (List.mem_of_ne_of_mem (by decide) later)

theorem break_of_write_members (members : List (String × Json)) {rest : List Char}
    (broken : '\n' ∈ writeMembers members rest) : '\n' ∈ rest := by
  match members with
  | [] => exact List.mem_of_ne_of_mem (by decide) broken
  | [(name, value)] =>
      have written := List.mem_of_ne_of_mem (by decide) (break_of_write_string broken)
      exact List.mem_of_ne_of_mem (by decide) (break_of_write value written)
  | (name, value) :: next :: members =>
      have written := List.mem_of_ne_of_mem (by decide) (break_of_write_string broken)
      have later := List.mem_of_ne_of_mem (by decide) (break_of_write value written)
      exact break_of_write_members (next :: members) later

end

theorem is_line_compact (value : Json) : Text.IsLine value.compact := by
  intro broken
  rw [compact, String.toList_ofList] at broken
  exact absurd (break_of_write value broken) List.not_mem_nil

end Json

end LinearStore
