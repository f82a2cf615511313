import LinearStore.Json.Numeral
import LinearStore.Proofs.Json.Shape

set_option autoImplicit false

namespace LinearStore

namespace Numeral

def Stops : List Char → Prop
  | [] => True
  | c :: _ => isDigit c = false

def Ends : List Char → Prop
  | [] => True
  | c :: _ => isDigit c = false ∧ c ≠ '.' ∧ c ≠ 'e' ∧ c ≠ 'E'

theorem ends_cons {c : Char} {rest : List Char}
    (stops : isDigit c = false ∧ c ≠ '.' ∧ c ≠ 'e' ∧ c ≠ 'E') : Ends (c :: rest) :=
  stops

theorem stops_of_ends {rest : List Char} (ends : Ends rest) : Stops rest := by
  cases rest with
  | nil => trivial
  | cons c tail => exact ends.1

def fractionChars : List Char → List Char
  | [] => []
  | first :: digits => '.' :: first :: digits

def exponentChars : Option (Bool × List Char) → List Char
  | none => []
  | some (negative, digits) => 'e' :: (if negative then '-' else '+') :: digits

def unsignedChars (numeral : Numeral) : List Char :=
  numeral.whole ++ (fractionChars numeral.fraction ++ exponentChars numeral.exponent)

def chars (numeral : Numeral) : List Char :=
  if numeral.negative then '-' :: numeral.unsignedChars else numeral.unsignedChars

def AreDigits (chars : List Char) : Prop := ∀ c ∈ chars, isDigit c = true

structure WellFormed (numeral : Numeral) : Prop where
  nonempty : numeral.whole ≠ []
  whole : AreDigits numeral.whole
  leading : numeral.whole.head? = some '0' → numeral.whole = ['0']
  fraction : AreDigits numeral.fraction
  exponent : ∀ negative digits, numeral.exponent = some (negative, digits) →
    digits ≠ [] ∧ AreDigits digits

theorem is_digit_of_mem {n : Nat} {c : Char} (member : c ∈ Nat.toDigits 10 n) : isDigit c = true :=
  Nat.isDigit_of_mem_toDigits (by decide) (by decide) member

theorem head_ne_zero {n : Nat} (positive : 0 < n) : (Nat.toDigits 10 n).head? ≠ some '0' := by
  induction n using Nat.strongRecOn with
  | ind n step =>
      by_cases small : n < 10
      · rw [Nat.toDigits_of_lt_base small, List.head?_cons]
        simpa using Nat.ne_of_gt positive
      · have shorter := step (n / 10) (by omega) (by omega)
        rw [Nat.toDigits_of_base_le (by decide) (by omega)]
        cases digits : Nat.toDigits 10 (n / 10) with
        | nil => exact absurd digits Nat.toDigits_ne_nil
        | cons first others =>
            rw [digits] at shorter
            exact shorter

theorem le_of_digit_chars (digits : List Char) (start : Nat) :
    start ≤ Nat.ofDigitChars 10 digits start := by
  rw [Nat.ofDigitChars_eq_ofDigitChars_zero]
  have scaled : start ≤ 10 ^ digits.length * start :=
    Nat.le_mul_of_pos_left _ (Nat.pow_pos (by decide))
  exact Nat.le_trans scaled (Nat.le_add_right _ _)

theorem gather_whole_digits (digits : List Char) (start : Nat)
    (fits : Nat.ofDigitChars 10 digits start < wordBound) :
    gatherWhole start digits = ⟨Nat.ofDigitChars 10 digits start, 0⟩ := by
  induction digits generalizing start with
  | nil => rfl
  | cons c rest step =>
      have commuted : start * 10 + digitValue c = 10 * start + (c.toNat - '0'.toNat) := by
        rw [Nat.mul_comm, digitValue]
      rw [Nat.ofDigitChars_cons] at fits ⊢
      have grows : 10 * start + (c.toNat - '0'.toNat) ≤
          Nat.ofDigitChars 10 rest (10 * start + (c.toNat - '0'.toNat)) :=
        le_of_digit_chars rest _
      have below : 10 * start + (c.toNat - '0'.toNat) < wordBound := Nat.lt_of_le_of_lt grows fits
      simp only [gatherWhole, commuted, if_pos below]
      exact step _ fits

theorem some_digits_append {digits rest : List Char} (nonempty : digits ≠ [])
    (all : AreDigits digits) (stops : Stops rest) : someDigits (digits ++ rest) = .ok (digits, rest) := by
  have stopped : rest.takeWhile isDigit = [] ∧ rest.dropWhile isDigit = rest := by
    cases rest with
    | nil => exact ⟨rfl, rfl⟩
    | cons c tail =>
        have other : isDigit c = false := stops
        simp [other]
  have taken : (digits ++ rest).takeWhile isDigit = digits := by
    rw [List.takeWhile_append_of_pos all, stopped.1, List.append_nil]
  have left : (digits ++ rest).dropWhile isDigit = rest := by
    rw [List.dropWhile_append_of_pos all, stopped.2]
  rw [someDigits, taken, left]
  cases digits with
  | nil => exact absurd rfl nonempty
  | cons first others => rfl

theorem exponent_digits_append {exponent : Option (Bool × List Char)}
    (proper : ∀ negative digits, exponent = some (negative, digits) → digits ≠ [] ∧ AreDigits digits)
    {rest : List Char} (ends : Ends rest) :
    exponentDigits (exponentChars exponent ++ rest) = .ok (exponent, rest) := by
  cases exponent with
  | none =>
      cases rest with
      | nil => rfl
      | cons c tail => simp [exponentChars, exponentDigits, ends.2.2.1, ends.2.2.2]
  | some signed =>
      obtain ⟨negative, digits⟩ := signed
      obtain ⟨nonempty, all⟩ := proper negative digits rfl
      have taken := some_digits_append nonempty all (stops_of_ends ends)
      cases negative <;> simp [exponentChars, exponentDigits, exponentSign, taken]

theorem exponent_chars_append (exponent : Option (Bool × List Char)) {rest : List Char}
    (ends : Ends rest) :
    Stops (exponentChars exponent ++ rest) ∧ (exponentChars exponent ++ rest).head? ≠ some '.' := by
  cases exponent with
  | some signed => exact ⟨(by decide : isDigit 'e' = false), by simp [exponentChars]⟩
  | none =>
      cases rest with
      | nil => exact ⟨trivial, by simp [exponentChars]⟩
      | cons c tail => exact ⟨ends.1, by simpa [exponentChars] using ends.2.1⟩

theorem fraction_digits_append {fraction : List Char} (all : AreDigits fraction) {rest : List Char}
    (stops : Stops rest) (undotted : rest.head? ≠ some '.') :
    fractionDigits (fractionChars fraction ++ rest) = .ok (fraction, rest) := by
  cases fraction with
  | cons first digits => exact some_digits_append (List.cons_ne_nil _ _) all stops
  | nil =>
      rw [fractionChars, List.nil_append, fractionDigits]
      rintro digits rfl
      exact undotted rfl

theorem fraction_chars_append (fraction : List Char) {rest : List Char} (stops : Stops rest) :
    Stops (fractionChars fraction ++ rest) := by
  cases fraction with
  | nil => exact stops
  | cons first digits => exact (by decide : isDigit '.' = false)

theorem whole_digits_append {whole : List Char} (nonempty : whole ≠ []) (all : AreDigits whole)
    (leading : whole.head? = some '0' → whole = ['0']) {rest : List Char} (stops : Stops rest) :
    wholeDigits (whole ++ rest) = .ok (whole, rest) := by
  have gathered : someDigits (whole ++ rest) = .ok (whole, rest) :=
    some_digits_append nonempty all stops
  by_cases zero : whole.head? = some '0'
  · rw [leading zero] at gathered ⊢
    cases rest with
    | nil => exact gathered
    | cons next tail =>
        have other : isDigit next = false := stops
        simp [wholeDigits, other]
  · rw [wholeDigits]
    · exact gathered
    · intro next tail starts
      cases whole with
      | nil => exact nonempty rfl
      | cons first others =>
          rw [List.cons_append] at starts
          injection starts with same
          exact zero (by rw [same, List.head?_cons])

theorem scan_unsigned_chars {numeral : Numeral} (wellFormed : numeral.WellFormed) {rest : List Char}
    (ends : Ends rest) :
    scanUnsigned numeral.negative (numeral.unsignedChars ++ rest) = .ok (numeral, rest) := by
  obtain ⟨stops, undotted⟩ := exponent_chars_append numeral.exponent ends
  have whole := whole_digits_append wellFormed.nonempty wellFormed.whole wellFormed.leading
    (fraction_chars_append numeral.fraction stops)
  have fraction := fraction_digits_append wellFormed.fraction stops undotted
  have exponent := exponent_digits_append wellFormed.exponent ends
  simp only [unsignedChars, List.append_assoc, scanUnsigned, whole, fraction, exponent, bind,
    Except.bind, pure, Except.pure]

theorem unsigned_chars_eq_cons {numeral : Numeral} (wellFormed : numeral.WellFormed) :
    ∃ first others, isDigit first = true ∧ numeral.unsignedChars = first :: others := by
  cases whole : numeral.whole with
  | nil => exact absurd whole wellFormed.nonempty
  | cons first digits =>
      have member : first ∈ numeral.whole := whole ▸ List.mem_cons_self
      refine ⟨first, digits ++ (fractionChars numeral.fraction ++ exponentChars numeral.exponent),
        wellFormed.whole first member, ?_⟩
      rw [unsignedChars, whole, List.cons_append]

theorem scan_chars {numeral : Numeral} (wellFormed : numeral.WellFormed) {rest : List Char}
    (ends : Ends rest) : scan (numeral.chars ++ rest) = .ok (numeral, rest) := by
  have scanned := scan_unsigned_chars wellFormed ends
  cases negative : numeral.negative with
  | true =>
      rw [negative] at scanned
      simpa only [chars, negative, if_true, List.cons_append, scan] using scanned
  | false =>
      rw [negative] at scanned
      rw [chars, negative, if_neg Bool.false_ne_true, scan]
      · exact scanned
      · intro tail starts
        obtain ⟨first, others, digit, written⟩ := unsigned_chars_eq_cons wellFormed
        rw [written, List.cons_append] at starts
        injection starts with same
        rw [same] at digit
        cases digit

theorem scan_chars_alone {numeral : Numeral} (wellFormed : numeral.WellFormed) :
    scan numeral.chars = .ok (numeral, []) := by
  have scanned : scan (numeral.chars ++ []) = .ok (numeral, []) := scan_chars wellFormed trivial
  rwa [List.append_nil] at scanned

end Numeral

namespace Number

def intNumeral (value : Int) : Numeral := ⟨decide (value < 0), Nat.toDigits 10 value.natAbs, [], none⟩

theorem int_numeral_well_formed (value : Int) : (intNumeral value).WellFormed where
  nonempty := Nat.toDigits_ne_nil
  whole _ member := Numeral.is_digit_of_mem member
  leading zero := by
    by_cases positive : 0 < value.natAbs
    · exact absurd zero (Numeral.head_ne_zero positive)
    · rw [intNumeral, Nat.eq_zero_of_not_pos positive, Nat.toDigits_zero]
  fraction _ member := by cases member
  exponent _ _ written := by cases written

theorem int_numeral_chars (value : Int) : (intNumeral value).chars = intChars value := by
  simp [intNumeral, Numeral.chars, Numeral.unsignedChars, Numeral.fractionChars,
    Numeral.exponentChars, intChars]

theorem value_int_numeral {value : Int} (word : (int value).isWord = true) :
    (intNumeral value).value = .ok (int value) := by
  simp only [isWord, Bool.and_eq_true, decide_eq_true_eq] at word
  have below : value.natAbs < Numeral.wordBound := show value.natAbs < 2 ^ 64 by omega
  have gathered : Numeral.gatherWhole 0 (Nat.toDigits 10 value.natAbs) = ⟨value.natAbs, 0⟩ := by
    rw [Numeral.gather_whole_digits] <;> rw [Nat.ofDigitChars_ten_toDigits]
    exact below
  by_cases negative : value < 0
  · have positive : 0 < value.natAbs := by omega
    have fits : value.natAbs ≤ Numeral.wordBound / 2 := show value.natAbs ≤ 2 ^ 64 / 2 by omega
    have size : -(value.natAbs : Int) = value := by omega
    have read : (intNumeral value).value = .ok (int (-(value.natAbs : Int))) := by
      simp [intNumeral, Numeral.value, gathered, Numeral.isIntegral, negative, positive, fits]
    rw [read, size]
  · have size : (value.natAbs : Int) = value := by omega
    have read : (intNumeral value).value = .ok (int (value.natAbs : Int)) := by
      simp [intNumeral, Numeral.value, gathered, Numeral.isIntegral, negative]
    rw [read, size]

end Number

end LinearStore
