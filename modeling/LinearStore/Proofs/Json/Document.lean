import LinearStore.Json.Record
import LinearStore.Proofs.Json.Reader

set_option autoImplicit false

namespace LinearStore.Json

theorem reads_map {α β : Type} {reader : Reader α} {document : Json} {value : α}
    (reads : Reads reader document value) (f : α → β) :
    Reads (fun tokens => (reader tokens).map fun found => (f found.1, found.2)) document (f value) := by
  intro rest
  have taken := reads rest
  simp only [taken, Except.map]

theorem reads_word (value : UInt64) : Reads readWord (.nat value.toNat) value := by
  intro rest
  have below : (value.toNat : Int) ≤ Int.ofNat (UInt64.size - 1) :=
    Int.ofNat_le.mpr (Nat.le_pred_of_lt value.toNat_lt)
  simp only [readWord, nat, withTokens, readInteger]
  rw [if_pos ⟨Int.natCast_nonneg _, below⟩, Except.map, Int.toNat_natCast, UInt64.ofNat_toNat]

theorem reads_int (value : Int64) : Reads readInt64 (.number (.int value.toInt)) value := by
  intro rest
  have least : Int64.minValue.toInt ≤ value.toInt := value.minValue_le_toInt
  have greatest : value.toInt ≤ Int64.maxValue.toInt := by
    have below := value.toInt_lt
    have limit : Int64.maxValue.toInt = 2 ^ 63 - 1 := by decide
    omega
  simp only [readInt64, withTokens, readInteger]
  rw [if_pos ⟨least, greatest⟩, Except.map, Int64.ofInt_toInt]

theorem reads_bool (value : Bool) : Reads readBool (.bool value) value := fun _ => rfl

theorem reads_list {α : Type} (item : Nat → Reader α) {levels : Nat} {items : List Json}
    {values : List α} (each : List.Forall₂ (Reads (item levels)) items values) :
    Reads (readList item (levels + 1)) (.array items) values := by
  intro rest
  rw [withTokens, readList, read_list_body each rest]

namespace Record

variable {σ α : Type}

theorem read_field (record : Record σ α) (field : Field σ) (state : σ) {next : σ}
    {value : Json} (found : (record.fields.find? fun other => other.name = field.name) = some field)
    (unset : field.isSet state = false) (reads : Reads (field.read state) value next)
    (rest : List Token) :
    record.readField state field.name (.colon :: value.withTokens rest) = .ok (next, rest) := by
  simp only [readField, found, unset, readColon, Bool.false_eq_true, if_false]
  exact reads rest

theorem reads_record (medium : Medium) (record : Nat → Record σ α) {levels : Nat}
    {members : List (String × Json)} {last : σ} {value : α}
    (absorbs : Absorbs (record levels).readField (record levels).start members last)
    (complete : (record levels).complete last = .ok value) :
    Reads (read medium record (levels + 1)) (.object members) value := by
  intro rest
  rw [withTokens, read, readNamed]
  simp only [read_object_body absorbs rest, bind, Except.bind, complete]

end Record

-- A text that holds one document and nothing else. JSON bounds neither the depth of a value nor the
-- digits of a number, so a reader finds the document with whatever numbers it makes of the numerals, and
-- the document itself if it makes the numbers that were written. The project's own reader has bounds.
structure Holds (text : String) (document : Json) : Prop where
  read : ∀ (convert : Conversion) (f : Number → Number),
    (∀ n ∈ document.numbers, convert.Makes n (f n)) → convert.parse text = .ok (document.mapNumbers f)
  readBack : ∀ convert : Conversion, (∀ n ∈ document.numbers, convert.Makes n n) →
    convert.parse text = .ok document
  readHere : document.isWhole = true → document.depth ≤ levelLimit → parse text = .ok document
  layout : (∀ convert : Conversion, convert.parse text = convert.parse document.compact) ∧
    parse text = parse document.compact

theorem parse_of_tokens {convert : Conversion} {text : String} {value : Json}
    (sorted : value.isSorted = true) (tokens : convert.tokenize text = value.tokens) :
    convert.parse text = .ok value := by
  have shallow : value.depth ≤ value.tokens.length :=
    Nat.le_of_lt (Nat.lt_of_le_of_lt (Nat.le_add_right _ _) (depth_lt_with_tokens value []))
  have read : readValue value.tokens.length value.tokens = .ok (value, []) :=
    reads_sorted_value sorted shallow []
  simp only [Conversion.parse, tokens, read, bind, Except.bind]

section

variable {value : Json} (sorted : value.isSorted = true) (isIndented : Bool)

include sorted

theorem parse_line {convert : Conversion} {f : Number → Number}
    (makes : ∀ n ∈ value.numbers, convert.Makes n (f n)) :
    convert.parse ((if isIndented then value.indented else value.compact) ++ "\n") =
      .ok (value.mapNumbers f) := by
  refine parse_of_tokens (map_numbers_sorted f value sorted) ?_
  rw [tokenize_by_line, reread_tokens makes]

theorem line_holds :
    Holds ((if isIndented then value.indented else value.compact) ++ "\n") value where
  read convert f makes := parse_line sorted isIndented makes
  readBack convert makes := by
    have read := parse_line sorted isIndented (f := id) makes
    rwa [map_numbers_id] at read
  readHere whole shallow := by
    have tokens : tokenize ((if isIndented then value.indented else value.compact) ++ "\n") =
        value.tokens := by
      rw [← tokenize_value, tokenize_by_line, reread_whole whole]
    have read : readValue levelLimit value.tokens = .ok (value, []) :=
      reads_sorted_value sorted shallow []
    simp only [parse, parseWith, tokens, read, bind, Except.bind]
  layout := by
    refine ⟨fun convert => ?_, ?_⟩
    · rw [Conversion.parse, Conversion.parse, tokenize_by_line, tokenize_by_compact]
    · rw [parse, parse, parseWith, parseWith, ← tokenize_value, ← tokenize_value, tokenize_by_line,
        tokenize_by_compact]

end

end LinearStore.Json
