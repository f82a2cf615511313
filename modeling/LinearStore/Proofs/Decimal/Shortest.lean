import LinearStore.Decimal.Shortest
import LinearStore.Json.Printer
import LinearStore.Proofs.Json.Numeral
import Mathlib.Algebra.Group.Nat.Defs
import Mathlib.Data.List.Basic

set_option autoImplicit false

namespace LinearStore

namespace Decimal

open Numeral (AreDigits)

namespace Bracket

variable {bracket : Bracket}

theorem admits_zero (above : 0 < bracket.low) : bracket.admits 0 = false := by
  rw [admits]
  split <;> simp [Nat.not_le.mpr above]

theorem nearest_whole_pos (above : 0 < bracket.low) {whole : Nat}
    (found : bracket.nearestWhole? = some whole) : 0 < whole := by
  have floorPos : bracket.admits (bracket.value / bracket.denominator * bracket.denominator) = true →
      0 < bracket.value / bracket.denominator := by
    intro admitted
    refine Nat.pos_of_ne_zero fun zero => ?_
    rw [zero, Nat.zero_mul, admits_zero above] at admitted
    cases admitted
  rw [nearestWhole?] at found
  split at found
  · cases found
  · rename_i admitted _
    cases found
    exact floorPos admitted
  · cases found
    exact Nat.succ_pos _
  · rename_i admitted _
    have positive := floorPos admitted
    split at found
    · cases found
      exact positive
    · split at found
      · cases found
        exact Nat.succ_pos _
      · cases found
        exact Nat.lt_of_lt_of_le positive (Nat.le_add_right _ _)

theorem measured_low_pos (above : 0 < bracket.low) (place : Int) : 0 < (bracket.measured place).low :=
  Nat.mul_pos above (Nat.pow_pos (by decide))

theorem shortest_from_pos (above : 0 < bracket.low) {magnitude : Int}
    (fine : 0 < (bracket.measured (magnitude - 17)).value /
      (bracket.measured (magnitude - 17)).denominator) (digits tries : Nat) :
    0 < (bracket.shortestFrom magnitude digits tries).1 := by
  induction tries generalizing digits with
  | zero => exact fine
  | succ tries step =>
      simp only [shortestFrom]
      split
      · rename_i whole found
        exact nearest_whole_pos (measured_low_pos above _) found
      · exact step (digits + 1)

-- One more digit after the zeros that lead makes up the denominator.
theorem leading_zeros_spec {numerator denominator steps digits : Nat} (within : digits ≤ steps)
    (enough : denominator ≤ 10 ^ digits * numerator) :
    denominator ≤ 10 ^ (leadingZeros numerator denominator steps + 1) * numerator := by
  induction steps generalizing numerator digits with
  | zero =>
      rw [Nat.le_zero.mp within] at enough
      rw [leadingZeros]
      omega
  | succ steps step =>
      rw [leadingZeros]
      split
      · rename_i reached
        simpa using reached
      · rename_i short
        cases digits with
        | zero => omega
        | succ digits =>
            rw [Nat.pow_succ, Nat.mul_assoc] at enough ⊢
            exact step (Nat.le_of_succ_le_succ within) enough

theorem finest_pos (positive : 0 < bracket.denominator) {digits : Nat} (within : digits ≤ 400)
    (enough : bracket.denominator ≤ 10 ^ digits * bracket.value) :
    0 < (bracket.measured (bracket.magnitude - 17)).value /
      (bracket.measured (bracket.magnitude - 17)).denominator := by
  refine Nat.div_pos ?_ (Nat.mul_pos positive (Nat.pow_pos (by decide)))
  change bracket.denominator * 10 ^ (bracket.magnitude - 17).toNat ≤
    bracket.value * 10 ^ (-(bracket.magnitude - 17)).toNat
  rw [magnitude]
  by_cases zero : bracket.value / bracket.denominator = 0
  · simp only [zero, if_true]
    have led := leading_zeros_spec within enough
    generalize leadingZeros bracket.value bracket.denominator 400 = count at led
    have down : (-(count : Int) - 17).toNat = 0 := by omega
    have up : (-(-(count : Int) - 17)).toNat = (count + 1) + 16 := by omega
    rw [down, up, Nat.pow_zero, Nat.mul_one, Nat.pow_add, ← Nat.mul_assoc, Nat.mul_comm bracket.value]
    exact Nat.le_trans led (Nat.le_mul_of_pos_right _ (Nat.pow_pos (by decide)))
  · simp only [zero, if_false]
    generalize whole : bracket.value / bracket.denominator = count at zero
    have below : bracket.denominator * count ≤ bracket.value := by
      rw [← whole]
      exact Nat.mul_div_le _ _
    have size : 10 ^ (((Nat.toDigits 10 count).length : Int) - 17).toNat ≤ count := by
      by_cases short : (Nat.toDigits 10 count).length ≤ 17
      · have none : (((Nat.toDigits 10 count).length : Int) - 17).toNat = 0 := by omega
        rw [none]
        exact Nat.one_le_iff_ne_zero.mpr zero
      · have long : ¬ (Nat.toDigits 10 count).length ≤
            (((Nat.toDigits 10 count).length : Int) - 17).toNat := by omega
        rw [Nat.length_toDigits_le_iff (by decide) (by omega)] at long
        exact Nat.le_of_not_lt long
    exact Nat.le_trans (Nat.le_trans (Nat.mul_le_mul_left _ size) below)
      (Nat.le_mul_of_pos_right _ (Nat.pow_pos (by decide)))

end Bracket

section

variable {number : Dyadic}

theorem low_of_dyadic_pos (positive : 0 < number.mantissa) : 0 < (Bracket.ofDyadic number).low := by
  refine Nat.mul_pos ?_ (by rw [Nat.one_shiftLeft]; exact Nat.two_pow_pos _)
  split <;> omega

theorem finest_of_dyadic_pos (positive : 0 < number.mantissa) (least : -1074 ≤ number.exponent) :
    0 < ((Bracket.ofDyadic number).measured ((Bracket.ofDyadic number).magnitude - 17)).value /
      ((Bracket.ofDyadic number).measured ((Bracket.ofDyadic number).magnitude - 17)).denominator := by
  have unit : (Bracket.ofDyadic number).denominator = 2 ^ (2 - number.exponent).toNat :=
    Nat.one_shiftLeft _
  have value : 0 < (Bracket.ofDyadic number).value := by
    refine Nat.mul_pos (Nat.mul_pos (by decide) positive) ?_
    rw [Nat.one_shiftLeft]
    exact Nat.two_pow_pos _
  -- Three binary places are less than a decimal one.
  have coarse : 2 ^ (2 - number.exponent).toNat ≤ 10 ^ (((2 - number.exponent).toNat + 2) / 3) :=
    calc 2 ^ (2 - number.exponent).toNat
        ≤ 2 ^ (3 * (((2 - number.exponent).toNat + 2) / 3)) := Nat.pow_le_pow_right (by decide) (by omega)
      _ = (2 ^ 3) ^ (((2 - number.exponent).toNat + 2) / 3) := Nat.pow_mul ..
      _ ≤ 10 ^ (((2 - number.exponent).toNat + 2) / 3) := Nat.pow_le_pow_left (by decide) _
  have within : ((2 - number.exponent).toNat + 2) / 3 ≤ 400 := by omega
  refine Bracket.finest_pos ?_ within ?_
  · rw [unit]
    exact Nat.two_pow_pos _
  · rw [unit]
    exact Nat.le_trans coarse (Nat.le_mul_of_pos_right _ value)

end

structure Digits.Leads (number : Digits) : Prop where
  nonempty : number.digits ≠ []
  all : AreDigits number.digits
  leading : number.digits.head? ≠ some '0'

theorem without_trailing_zeros_cons {first : Char} (digits : List Char) (other : first ≠ '0') :
    ∃ others, withoutTrailingZeros (first :: digits) = first :: others ∧ ∀ c ∈ others, c ∈ digits := by
  rw [withoutTrailingZeros, List.reverse_cons, List.dropWhile_append]
  split
  · refine ⟨[], ?_, by simp⟩
    simp [other]
  · refine ⟨(digits.reverse.dropWhile (· == '0')).reverse, by simp, fun c member => ?_⟩
    rw [List.mem_reverse] at member
    exact List.mem_reverse.mp (List.dropWhile_subset _ member)

theorem shortest_leads {number : Dyadic} (positive : 0 < number.mantissa)
    (least : -1074 ≤ number.exponent) : (shortest number).Leads := by
  have found : 0 < ((Bracket.ofDyadic number).shortestFrom (Bracket.ofDyadic number).magnitude 1 17).1 :=
    Bracket.shortest_from_pos (low_of_dyadic_pos positive) (finest_of_dyadic_pos positive least) 1 17
  have leading := Numeral.head_ne_zero found
  cases digits : Nat.toDigits 10
      ((Bracket.ofDyadic number).shortestFrom (Bracket.ofDyadic number).magnitude 1 17).1 with
  | nil => exact absurd digits Nat.toDigits_ne_nil
  | cons first rest =>
      rw [digits, List.head?_cons] at leading
      obtain ⟨others, stripped, among⟩ :=
        without_trailing_zeros_cons rest fun same => leading (congrArg some same)
      have written : (shortest number).digits = first :: others := by
        rw [shortest]
        simp only [digits]
        exact stripped
      refine ⟨?nonempty, ?all, ?leading⟩
      case nonempty =>
        rw [written]
        exact List.cons_ne_nil _ _
      case all =>
        intro c member
        rw [written] at member
        have inside : c ∈ first :: rest := by
          rcases List.mem_cons.mp member with rfl | later
          · exact List.mem_cons_self
          · exact List.mem_cons_of_mem _ (among c later)
        rw [← digits] at inside
        exact Numeral.is_digit_of_mem inside
      case leading =>
        rw [written]
        exact leading

section

variable {number : Digits}

theorem zeros_are_digits (count : Int) : AreDigits (zeros count) := by
  intro c member
  rw [List.eq_of_mem_replicate member]
  rfl

theorem zero_is_digit : AreDigits ['0'] := zeros_are_digits 1

theorem append_are_digits {left right : List Char} (first : AreDigits left) (second : AreDigits right) :
    AreDigits (left ++ right) := by
  intro c member
  rcases List.mem_append.mp member with inLeft | inRight
  · exact first c inLeft
  · exact second c inRight

theorem positional_is_numeral (leads : number.Leads) :
    ∃ numeral : Numeral, numeral.WellFormed ∧ numeral.unsignedChars = positional number := by
  rw [positional]
  split
  · refine ⟨⟨false, ['0'], zeros (-number.point) ++ number.digits, none⟩, ?_, ?_⟩
    · exact ⟨List.cons_ne_nil _ _, zero_is_digit, fun _ => rfl,
        append_are_digits (zeros_are_digits _) leads.all, by simp⟩
    · cases fraction : zeros (-number.point) ++ number.digits with
      | nil => exact absurd (List.append_eq_nil_iff.mp fraction).2 leads.nonempty
      | cons first others =>
          simp [Numeral.unsignedChars, Numeral.fractionChars, Numeral.exponentChars, fraction]
  · rename_i above
    split
    · refine ⟨⟨false, number.digits ++ zeros (number.point - number.digits.length), ['0'], none⟩, ?_, ?_⟩
      · refine ⟨by simp [leads.nonempty], append_are_digits leads.all (zeros_are_digits _), ?_,
          zero_is_digit, by simp⟩
        intro zero
        rw [List.head?_append_of_ne_nil _ leads.nonempty] at zero
        exact absurd zero leads.leading
      · simp [Numeral.unsignedChars, Numeral.fractionChars, Numeral.exponentChars]
    · rename_i short
      refine ⟨⟨false, number.digits.take number.point.toNat, number.digits.drop number.point.toNat, none⟩,
        ?_, ?_⟩
      · refine ⟨?_, fun c member => leads.all c (List.mem_of_mem_take member), ?_,
          fun c member => leads.all c (List.mem_of_mem_drop member), by simp⟩
        · simp only [ne_eq, List.take_eq_nil_iff, leads.nonempty, or_false]
          omega
        · intro zero
          rw [List.head?_take, if_neg (by omega)] at zero
          exact absurd zero leads.leading
      · cases fraction : number.digits.drop number.point.toNat with
        | nil =>
            rw [List.drop_eq_nil_iff] at fraction
            omega
        | cons first others =>
            simp only [Numeral.unsignedChars, Numeral.fractionChars, Numeral.exponentChars,
              List.append_nil]

theorem scientific_is_numeral (leads : number.Leads) :
    ∃ numeral : Numeral, numeral.WellFormed ∧ numeral.unsignedChars = scientific number := by
  have exponent : ∀ negative digits,
      some (decide (number.point - 1 < 0), Nat.toDigits 10 (number.point - 1).natAbs) =
        some (negative, digits) → digits ≠ [] ∧ AreDigits digits := by
    intro negative digits same
    cases same
    exact ⟨Nat.toDigits_ne_nil, fun c member => Numeral.is_digit_of_mem member⟩
  cases digits : number.digits with
  | nil => exact absurd digits leads.nonempty
  | cons first others =>
      have all := leads.all
      have leading := leads.leading
      rw [digits] at all leading
      refine ⟨⟨false, [first], others,
        some (decide (number.point - 1 < 0), Nat.toDigits 10 (number.point - 1).natAbs)⟩, ?_, ?_⟩
      · refine ⟨List.cons_ne_nil _ _, ?_, fun zero => absurd zero leading,
          fun c member => all c (List.mem_cons_of_mem _ member), exponent⟩
        intro c member
        exact all c (List.mem_singleton.mp member ▸ List.mem_cons_self)
      · cases others with
        | nil => simp [Numeral.unsignedChars, Numeral.fractionChars, Numeral.exponentChars, scientific, digits]
        | cons second rest =>
            simp [Numeral.unsignedChars, Numeral.fractionChars, Numeral.exponentChars, scientific, digits]

theorem Layout.text_is_numeral (layout : Layout) (leads : number.Leads) :
    ∃ numeral : Numeral, numeral.WellFormed ∧ numeral.unsignedChars = layout.text number := by
  rw [text]
  split
  · exact positional_is_numeral leads
  · exact scientific_is_numeral leads

end

end Decimal

namespace Number

theorem least_exponent (bits : UInt64) : -1074 ≤ (Decimal.Dyadic.ofBits bits).exponent := by
  rw [Decimal.Dyadic.ofBits]
  split
  · exact Int.le_refl _
  · rename_i normal
    have one := Nat.one_le_iff_ne_zero.mpr normal
    simp only [Int.ofNat_eq_natCast]
    omega

theorem float_chars_are_numeral (value : Float) :
    ∃ numeral : Numeral, numeral.WellFormed ∧ numeral.chars = floatChars value := by
  have unsigned : ∃ numeral : Numeral, numeral.WellFormed ∧ numeral.unsignedChars =
      if (Decimal.Dyadic.ofBits value.toBits).mantissa = 0 then ['0', '.', '0']
      else Decimal.jsonLayout.text (Decimal.shortest (Decimal.Dyadic.ofBits value.toBits)) := by
    split
    · exact ⟨⟨false, ['0'], ['0'], none⟩,
        ⟨List.cons_ne_nil _ _, Decimal.zero_is_digit, fun _ => rfl, Decimal.zero_is_digit, by simp⟩, rfl⟩
    · rename_i nonzero
      exact Decimal.jsonLayout.text_is_numeral
        (Decimal.shortest_leads (Nat.pos_of_ne_zero nonzero) (least_exponent _))
  obtain ⟨numeral, wellFormed, written⟩ := unsigned
  refine ⟨{ numeral with negative := !decide (value.toBits.toNat < UInt64.size / 2) }, ?_, ?_⟩
  · exact ⟨wellFormed.nonempty, wellFormed.whole, wellFormed.leading, wellFormed.fraction,
      wellFormed.exponent⟩
  · simp only [floatChars, ← written, Numeral.chars, Numeral.unsignedChars]
    split <;> split <;> simp_all

theorem chars_are_numeral (number : Number) :
    ∃ numeral : Numeral, numeral.WellFormed ∧ numeral.chars = number.chars := by
  cases number with
  | int value => exact ⟨intNumeral value, int_numeral_well_formed value, int_numeral_chars value⟩
  | float value => exact float_chars_are_numeral value

end Number
end LinearStore
