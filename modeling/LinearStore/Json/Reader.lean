import LinearStore.Json.Numeral
import LinearStore.Json.Text

set_option autoImplicit false

namespace LinearStore

namespace Json

def isBlank (c : Char) : Bool := c == ' ' || c == '\t' || c == '\n' || c == '\r'

def wordToken (value : Scalar) : (expected chars : List Char) → Token × List Char
  | [], rest => (.scalar value, rest)
  | _ :: _, [] => (.faulty false .endInValue (some .endInValue), [])
  | e :: expected, c :: rest =>
      if e = c then wordToken value expected rest
      else (.faulty false .expectedIdent (some .expectedIdent), [])

def nextToken (c : Char) (rest : List Char) : Token × List Char :=
  match c with
  | '[' => (.opening .list, rest)
  | ']' => (.closing .list, rest)
  | '\x7b' => (.opening .object, rest)
  | '\x7d' => (.closing .object, rest)
  | ',' => (.comma, rest)
  | ':' => (.colon, rest)
  | '"' => textToken rest
  | 'n' => wordToken .null ['u', 'l', 'l'] rest
  | 't' => wordToken (.bool true) ['r', 'u', 'e'] rest
  | 'f' => wordToken (.bool false) ['a', 'l', 's', 'e'] rest
  | c => if c = '-' ∨ Numeral.isDigit c then numeralToken (c :: rest) else (.stray, rest)

def tokensWithin : Nat → List Char → List Token
  | 0, _ => []
  | _, [] => []
  | steps + 1, c :: rest =>
      if isBlank c then tokensWithin steps rest
      else
        let found := nextToken c rest
        if found.1.isImpassable then [found.1] else found.1 :: tokensWithin steps found.2

-- The tokens of a text. Every step takes a character at least, so its length bounds the steps.
def tokenize (text : String) : List Token :=
  let chars := text.toList
  tokensWithin chars.length chars

end Json

abbrev Reader (α : Type) : Type := List Token → Except ParseError (α × List Token)

namespace Json

def levelLimit : Nat := 127

def fail {α : Type} (error : SyntaxError) : Except ParseError α := .error (.grammar error)

def failData {α : Type} (error : DataError) : Except ParseError α := .error (.data error)

def mismatch {α : Type} (expected : String) : List Token → Except ParseError α
  | [] => fail .endInValue
  | .scalar value :: _ => failData (.invalidType (.scalar value) expected)
  | .opening .list :: _ => failData (.invalidType .sequence expected)
  | .opening .object :: _ => failData (.invalidType .map expected)
  | .faulty _ onRead _ :: _ => fail onRead
  | _ :: _ => fail .expectedValue

def readString (expected : String) : Reader String
  | .scalar (.string value) :: rest => .ok (value, rest)
  | tokens => mismatch expected tokens

def readBool : Reader Bool
  | .scalar (.bool value) :: rest => .ok (value, rest)
  | tokens => mismatch "a boolean" tokens

def readUnit : Reader Unit
  | .scalar .null :: rest => .ok ((), rest)
  | tokens => mismatch "unit" tokens

def readInteger (least greatest : Int) (expected : String) : Reader Int
  | .scalar (.number (.int value)) :: rest =>
      if least ≤ value ∧ value ≤ greatest then .ok (value, rest)
      else failData (.invalidValue (.scalar (.number (.int value))) expected)
  | tokens => mismatch expected tokens

def readWord (tokens : List Token) : Except ParseError (UInt64 × List Token) :=
  (readInteger 0 (Int.ofNat (UInt64.size - 1)) "u64" tokens).map fun found =>
    (UInt64.ofNat found.1.toNat, found.2)

def readInt64 (tokens : List Token) : Except ParseError (Int64 × List Token) :=
  (readInteger Int64.minValue.toInt Int64.maxValue.toInt "i64" tokens).map fun found =>
    (Int64.ofInt found.1, found.2)

inductive Continuation where
  | more (rest : List Token)
  | finished (rest : List Token)
deriving Repr

def readContinuation (enclosure : Enclosure) : List Token → Except ParseError Continuation
  | [] => fail enclosure.cutShort
  | .comma :: [] => fail .endInValue
  | .comma :: .closing found :: rest =>
      if found = enclosure then fail .trailingComma else .ok (.more (.closing found :: rest))
  | .comma :: next :: rest => .ok (.more (next :: rest))
  | .closing found :: rest =>
      if found = enclosure then .ok (.finished rest) else fail enclosure.unseparated
  | _ :: _ => fail enclosure.unseparated

def readStart (enclosure : Enclosure) : List Token → Except ParseError Continuation
  | [] => fail enclosure.cutShort
  | .closing found :: rest =>
      if found = enclosure then .ok (.finished rest) else .ok (.more (.closing found :: rest))
  | tokens => .ok (.more tokens)

def readItems {α : Type} (item : Reader α) : Nat → Reader (List α)
  | 0, _ => fail .endInList
  | bound + 1, tokens => do
      let (first, tokens) ← item tokens
      match ← readContinuation .list tokens with
      | .finished rest => .ok ([first], rest)
      | .more tokens =>
          let (items, rest) ← readItems item bound tokens
          .ok (first :: items, rest)

def readListBody {α : Type} (item : Reader α) (tokens : List Token) :
    Except ParseError (List α × List Token) := do
  match ← readStart .list tokens with
  | .finished rest => .ok ([], rest)
  | .more tokens => readItems item tokens.length tokens

def readKey : Reader String
  | .scalar (.string key) :: rest => .ok (key, rest)
  | .faulty true onRead _ :: _ => fail onRead
  | _ => fail .keyMustBeString

def readColon : List Token → Except ParseError (List Token)
  | [] => fail .endInObject
  | .colon :: rest => .ok rest
  | _ :: _ => fail .expectedColon

-- Reads one member after the other. What a member does to the state is read from its colon on.
def readMembers {σ : Type} (member : σ → String → Reader σ) : Nat → σ → Reader σ
  | 0, _, _ => fail .endInObject
  | bound + 1, state, tokens => do
      let (key, tokens) ← readKey tokens
      let (state, tokens) ← member state key tokens
      match ← readContinuation .object tokens with
      | .finished rest => .ok (state, rest)
      | .more tokens => readMembers member bound state tokens

def readObjectBody {σ : Type} (member : σ → String → Reader σ) (state : σ)
    (tokens : List Token) : Except ParseError (σ × List Token) := do
  match ← readStart .object tokens with
  | .finished rest => .ok (state, rest)
  | .more tokens => readMembers member tokens.length state tokens

def readMember (value : Reader Json) (members : List (String × Json)) (key : String)
    (tokens : List Token) : Except ParseError (List (String × Json) × List Token) := do
  let tokens ← readColon tokens
  let (found, rest) ← value tokens
  .ok (insertOrdered key found members, rest)

def readValue : Nat → Reader Json
  | _, .scalar value :: rest => .ok (value.json, rest)
  | levels + 1, .opening .list :: rest =>
      (readListBody (readValue levels) rest).map fun found => (.array found.1, found.2)
  | levels + 1, .opening .object :: rest =>
      (readObjectBody (readMember (readValue levels)) [] rest).map fun found =>
        (.object found.1, found.2)
  | 0, .opening _ :: _ => fail .recursionLimitExceeded
  | _, tokens => mismatch "value" tokens

def readList {α : Type} (item : Nat → Reader α) : Nat → Reader (List α)
  | levels + 1, .opening .list :: rest => readListBody (item levels) rest
  | 0, .opening .list :: _ => fail .recursionLimitExceeded
  | _, tokens => mismatch "a sequence" tokens

def parseWith {α : Type} (reader : Nat → Reader α) (text : String) : Except ParseError α := do
  let (value, rest) ← reader levelLimit (tokenize text)
  match rest with
  | [] => .ok value
  | _ :: _ => fail .trailingCharacters

def parse (text : String) : Except ParseError Json := parseWith readValue text

abbrev Conversion : Type := Numeral → Except SyntaxError Number

namespace Conversion

def numeralToken (convert : Conversion) (chars : List Char) : Token × List Char :=
  match Numeral.scan chars with
  | .error fault => (.faulty false fault.onRead (some .invalidNumber), [])
  | .ok (numeral, rest) =>
      match convert numeral with
      | .ok value => (.scalar (.number value), rest)
      | .error error => (.faulty false error none, rest)

def nextToken (convert : Conversion) (c : Char) (rest : List Char) : Token × List Char :=
  if c = '-' ∨ Numeral.isDigit c then convert.numeralToken (c :: rest) else Json.nextToken c rest

def tokensWithin (convert : Conversion) : Nat → List Char → List Token
  | 0, _ => []
  | _, [] => []
  | steps + 1, c :: rest =>
      if isBlank c then convert.tokensWithin steps rest
      else
        let found := convert.nextToken c rest
        if found.1.isImpassable then [found.1] else found.1 :: convert.tokensWithin steps found.2

def tokenize (convert : Conversion) (text : String) : List Token :=
  let chars := text.toList
  convert.tokensWithin chars.length chars

-- Reads the one value of a text. No value nests more deeply than it has tokens.
def parse (convert : Conversion) (text : String) : Except ParseError Json := do
  let tokens := convert.tokenize text
  let (value, rest) ← readValue tokens.length tokens
  match rest with
  | [] => .ok value
  | _ :: _ => fail .trailingCharacters

-- What is made of a number that is written: its numeral is converted to this one.
def Makes (convert : Conversion) (written made : Number) : Prop :=
  ∀ numeral, Numeral.scan written.chars = .ok (numeral, []) → convert numeral = .ok made

end Conversion

end Json

end LinearStore
