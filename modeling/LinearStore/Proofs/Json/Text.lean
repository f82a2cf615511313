import LinearStore.Json.Text
import Mathlib.Data.List.Forall2

set_option autoImplicit false

namespace LinearStore.Json

-- The units that stand for one character and do not wait for another half.
def TextUnit.Spells (c : Char) : TextUnit → Prop
  | .char d => d = c
  | .code value => value = c.toNat ∧ value < 0x20

theorem hex_value_hex_digit (n : Nat) : Text.hexValue? (hexDigit n) = some (n % 16) := by
  have digits : ∀ d < 16, Text.hexValue? (Nat.digitChar d) = some d := by decide
  exact digits (n % 16) (Nat.mod_lt n (by decide))

theorem scan_escaped_letter {letter c : Char} (known : escaped? letter = some c) (tail : List Char) :
    scanText ('\\' :: letter :: tail) = (.char c :: (scanText tail).1, (scanText tail).2) := by
  rw [scanText]
  · rw [known]
  · rintro a b c d rest rfl
    cases known
  · rintro rfl
    cases known

theorem scan_plain_char {c : Char} (quote : c ≠ '"') (backslash : c ≠ '\\') (visible : ¬ c.toNat < 0x20)
    (tail : List Char) : scanText (c :: tail) = (.char c :: (scanText tail).1, (scanText tail).2) := by
  rw [scanText]
  · rw [if_neg visible]
  all_goals simp_all

theorem scan_escape_char (c : Char) :
    ∃ unit : TextUnit, unit.Spells c ∧
      ∀ tail, scanText (escapeChar c ++ tail) = (unit :: (scanText tail).1, (scanText tail).2) := by
  unfold escapeChar
  split
  · exact ⟨.char '"', rfl, scan_escaped_letter rfl⟩
  · exact ⟨.char '\\', rfl, scan_escaped_letter rfl⟩
  · exact ⟨.char '\x08', rfl, scan_escaped_letter rfl⟩
  · exact ⟨.char '\x0c', rfl, scan_escaped_letter rfl⟩
  · exact ⟨.char '\n', rfl, scan_escaped_letter rfl⟩
  · exact ⟨.char '\r', rfl, scan_escaped_letter rfl⟩
  · exact ⟨.char '\t', rfl, scan_escaped_letter rfl⟩
  · rename_i quote backslash _ _ _ _ _
    by_cases control : c.toNat < 0x20
    · refine ⟨.code c.toNat, ⟨rfl, control⟩, fun tail => ?_⟩
      have code : codeOf? '0' '0' (hexDigit (c.toNat / 16)) (hexDigit c.toNat) = some c.toNat := by
        have zero : Text.hexValue? '0' = some 0 := rfl
        simp only [codeOf?, zero, hex_value_hex_digit]
        congr 1
        omega
      simp only [if_pos control, List.cons_append, List.nil_append]
      rw [scanText, code]
    · refine ⟨.char c, rfl, fun tail => ?_⟩
      rw [if_neg control]
      exact scan_plain_char quote backslash control tail

theorem scan_written (chars rest : List Char) :
    ∃ units, List.Forall₂ TextUnit.Spells chars units ∧
      scanText (chars.foldr (fun c tail => escapeChar c ++ tail) ('"' :: rest)) =
        (units, .closed rest) := by
  induction chars with
  | nil => exact ⟨[], .nil, by rw [List.foldr_nil, scanText]⟩
  | cons c others step =>
      obtain ⟨units, spelt, scanned⟩ := step
      obtain ⟨unit, spells, scan⟩ := scan_escape_char c
      refine ⟨unit :: units, .cons spells spelt, ?_⟩
      rw [List.foldr_cons, scan, scanned]

theorem join_units_cons {c : Char} {unit : TextUnit} {units : List TextUnit} {chars : List Char}
    {stop : TextEnd} (spells : unit.Spells c) (joined : joinUnits stop units = .ok chars) :
    joinUnits stop (unit :: units) = .ok (c :: chars) := by
  cases unit with
  | char d =>
      cases spells
      rw [joinUnits, joined]
      rfl
  | code value =>
      obtain ⟨rfl, control⟩ := spells
      have notLow : isLowHalf c.toNat = false := by
        simp only [isLowHalf, Bool.and_eq_false_iff, decide_eq_false_iff_not]
        omega
      have notHigh : isHighHalf c.toNat = false := by
        simp only [isHighHalf, Bool.and_eq_false_iff, decide_eq_false_iff_not]
        omega
      have whole : (joinUnits stop units).map (Char.ofNat c.toNat :: ·) = .ok (c :: chars) := by
        rw [joined, Char.ofNat_toNat]
        rfl
      cases units with
      | nil =>
          rw [joinUnits, notLow, notHigh]
          exact whole
      | cons next others =>
          cases next <;> rw [joinUnits, notLow, notHigh] <;> exact whole

theorem join_units_of_spelt {chars : List Char} {units : List TextUnit}
    (spelt : List.Forall₂ TextUnit.Spells chars units) (rest : List Char) :
    joinUnits (.closed rest) units = .ok chars := by
  induction spelt with
  | nil => rfl
  | cons spells _ step => exact join_units_cons spells step

theorem text_token_written (text : String) (rest : List Char) :
    textToken (text.toList.foldr (fun c tail => escapeChar c ++ tail) ('"' :: rest)) =
      (.scalar (.string text), rest) := by
  obtain ⟨units, spelt, scanned⟩ := scan_written text.toList rest
  simp only [textToken, scanned, join_units_of_spelt spelt, String.ofList_toList]

theorem length_written (chars rest : List Char) :
    rest.length ≤ (chars.foldr (fun c tail => escapeChar c ++ tail) rest).length := by
  induction chars with
  | nil => exact Nat.le_refl _
  | cons c others step =>
      rw [List.foldr_cons, List.length_append]
      exact Nat.le_trans step (Nat.le_add_left _ _)

end LinearStore.Json
