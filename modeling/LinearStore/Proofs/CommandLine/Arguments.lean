import LinearStore.CommandLine.Arguments
import LinearStore.Proofs.Json.Numeral

set_option autoImplicit false

namespace LinearStore

namespace Text

theorem word_from_digits {digits : List Char} (all : Numeral.AreDigits digits) (start : Nat)
    (fits : Nat.ofDigitChars 10 digits start < UInt64.size) :
    wordFrom start digits = .ok (Nat.ofDigitChars 10 digits start) := by
  induction digits generalizing start with
  | nil => rfl
  | cons c rest step =>
      have digit : '0' ≤ c ∧ c ≤ '9' := by
        simpa [Numeral.isDigit] using all c List.mem_cons_self
      have commuted : start * 10 + (c.toNat - '0'.toNat) = 10 * start + (c.toNat - '0'.toNat) := by
        rw [Nat.mul_comm]
      rw [Nat.ofDigitChars_cons] at fits ⊢
      have grows : 10 * start + (c.toNat - '0'.toNat) ≤
          Nat.ofDigitChars 10 rest (10 * start + (c.toNat - '0'.toNat)) :=
        Numeral.le_of_digit_chars rest _
      rw [wordFrom, if_pos digit, commuted, if_pos (Nat.lt_of_le_of_lt grows fits)]
      exact step (fun other inside => all other (List.mem_cons_of_mem _ inside)) _ fits

theorem word_of_decimal (value : UInt64) : wordOf (toString value.toNat) = .ok value := by
  have written : (toString value.toNat).toList = Nat.toDigits 10 value.toNat := by simp
  have all : Numeral.AreDigits (Nat.toDigits 10 value.toNat) :=
    fun c member => Numeral.is_digit_of_mem member
  have read : wordFrom 0 (Nat.toDigits 10 value.toNat) = .ok value.toNat := by
    rw [word_from_digits all] <;> rw [Nat.ofDigitChars_ten_toDigits]
    exact value.toNat_lt
  rw [wordOf, written]
  cases digits : Nat.toDigits 10 value.toNat with
  | nil => exact absurd digits Nat.toDigits_ne_nil
  | cons first others =>
      rw [digits] at all read
      have unsigned : first ≠ '+' := by
        rintro rfl
        exact absurd (all '+' List.mem_cons_self) (by decide)
      rw [wordOfChars, read]
      · simp [Except.map]
      · simp
      · intro same
        injection same with same
        exact unsigned same
      · intro digits same
        injection same with same
        exact unsigned same

end Text

namespace CommandLine

def Format.name : Format → String
  | json => "json"
  | text => "text"

theorem Format.of_text_name (format : Format) : ofText? format.name = some format := by
  cases format <;> rfl

def RunOptions.arguments (options : RunOptions) : List String :=
  ["--format", options.format.name] ++
    (if options.pretty then ["--pretty"] else []) ++
    (if options.strictFree then ["--strict-free"] else []) ++
    (match options.maxSlots with
      | some maxSlots => ["--max-slots", toString maxSlots.toNat]
      | none => []) ++
    if options.bindings then ["--bindings"] else []

def RunOptions.items (options : RunOptions) : List Item :=
  [.option "format" options.format.name] ++
    (if options.pretty then [.switch "pretty"] else []) ++
    (if options.strictFree then [.switch "strict-free"] else []) ++
    (match options.maxSlots with
      | some maxSlots => [.option "max-slots" (toString maxSlots.toNat)]
      | none => []) ++
    if options.bindings then [.switch "bindings"] else []

theorem scan_plain {flags : List Flag} {argument : String} (plain : isDashed argument = false)
    (rest : List String) :
    scan flags none (argument :: rest) = .plain argument :: scan flags none rest := by
  unfold isDashed at plain
  split at plain
  · cases plain
  · rename_i undashed
    rw [scan]
    split
    · rename_i letters
      exact absurd letters (undashed '-' [])
    · rename_i letters
      exact absurd letters (undashed '-' _)
    · rename_i letters
      exact absurd letters (undashed _ _)
    · rfl

theorem scan_value {flags : List Flag} {name value : String} (plain : isDashed value = false)
    (rest : List String) :
    scan flags (some name) (value :: rest) = .option name value :: scan flags none rest := by
  rw [scan, plain]
  rfl

theorem decimal_not_dashed (n : Nat) : isDashed (toString n) = false := by
  have written : (toString n).toList = Nat.toDigits 10 n := by simp
  rw [isDashed, written]
  split
  · rename_i letters
    have digit : Numeral.isDigit '-' = true :=
      Numeral.is_digit_of_mem (letters ▸ List.mem_cons_self : '-' ∈ Nat.toDigits 10 n)
    cases digit
  · rfl

theorem Format.name_not_dashed (format : Format) : isDashed format.name = false := by
  cases format <;> rfl

theorem scan_arguments (options : RunOptions) :
    scan runForm.flags none options.arguments = options.items := by
  have format : ∀ rest, scan runForm.flags none ("--format" :: options.format.name :: rest) =
      .option "format" options.format.name :: scan runForm.flags none rest :=
    fun rest => scan_value options.format.name_not_dashed rest
  have pretty : ∀ rest, scan runForm.flags none ((if options.pretty then ["--pretty"] else []) ++ rest) =
      (if options.pretty then [.switch "pretty"] else []) ++ scan runForm.flags none rest := by
    intro rest
    cases options.pretty <;> rfl
  have strictFree : ∀ rest,
      scan runForm.flags none ((if options.strictFree then ["--strict-free"] else []) ++ rest) =
        (if options.strictFree then [.switch "strict-free"] else []) ++ scan runForm.flags none rest := by
    intro rest
    cases options.strictFree <;> rfl
  have maxSlots : ∀ value rest, scan runForm.flags none ("--max-slots" :: toString value :: rest) =
      .option "max-slots" (toString value) :: scan runForm.flags none rest :=
    fun value rest => scan_value (decimal_not_dashed value) rest
  have bindings : scan runForm.flags none (if options.bindings then ["--bindings"] else []) =
      if options.bindings then [.switch "bindings"] else [] := by
    cases options.bindings <;> rfl
  rw [RunOptions.arguments, RunOptions.items]
  simp only [List.append_assoc, List.cons_append, List.nil_append, format, pretty, strictFree]
  cases options.maxSlots with
  | none => simp only [List.nil_append, bindings]
  | some value => simp only [List.cons_append, List.nil_append, maxSlots, bindings]

theorem gather_items (path : String) (options : RunOptions) :
    ∃ draft : Draft, gather? runForm {} (.plain path :: options.items) = some (.draft draft) ∧
      draft.verbosity = 0 ∧ draft.script = some path ∧ draft.options = options := by
  obtain ⟨format, pretty, strictFree, maxSlots, bindings⟩ := options
  have word : ∀ value, (Text.wordOf value.toNat.repr).toOption = some value :=
    fun value => congrArg Except.toOption (Text.word_of_decimal value)
  cases maxSlots <;> cases pretty <;> cases strictFree <;> cases bindings <;>
    simp [RunOptions.items, gather?, Draft.add, Draft.addOption, Draft.fill, Draft.options, runForm,
      Format.of_text_name, word]

theorem request_of_options {path : String} (plain : isDashed path = false) (options : RunOptions) :
    request? ("run" :: path :: options.arguments) = some (.command 0 (.run path options)) := by
  obtain ⟨draft, gathered, quiet, script, same⟩ := gather_items path options
  have scanned : scan runForm.flags none (path :: options.arguments) = .plain path :: options.items := by
    rw [scan_plain plain, scan_arguments]
  have request : request? ("run" :: path :: options.arguments) =
      commandRequest? .run runForm 0 (path :: options.arguments) fun draft =>
        draft.script.map fun script => .run script draft.options := rfl
  rw [request, commandRequest?, scanned, gathered]
  simp [quiet, script, same]

theorem request_of_check {path : String} (plain : isDashed path = false) :
    request? ["check", path] = some (.command 0 (.check path)) := by
  have scanned : scan checkForm.flags none [path] = [.plain path] := scan_plain plain []
  have request : request? ["check", path] = commandRequest? .check checkForm 0 [path] fun draft =>
      draft.script.map Command.check := rfl
  rw [request, commandRequest?, scanned]
  rfl

end CommandLine

end LinearStore
