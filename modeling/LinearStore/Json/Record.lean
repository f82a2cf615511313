import LinearStore.Json.Skip

set_option autoImplicit false

namespace LinearStore.Json

-- Where tokens come from. A record written as too long a list is told apart by it: a text is not
-- read beyond the last field, while a document knows its own length.
inductive Medium where
  | text
  | document
deriving DecidableEq, Repr

structure Field (σ : Type) where
  name : String
  isSet : σ → Bool
  read : σ → Reader σ

structure Missing where
  place : Nat
  name : String
deriving DecidableEq, Repr

structure Record (σ α : Type) where
  title : String
  start : σ
  fields : List (Field σ)
  complete : σ → Except Missing α

namespace Record

variable {σ α : Type}

def readField (record : Record σ α) (state : σ) (key : String) (tokens : List Token) :
    Except ParseError (σ × List Token) :=
  match record.fields.find? fun field => field.name = key with
  | some field =>
      if field.isSet state then failData (.duplicateField key)
      else
        match readColon tokens with
        | .error error => .error error
        | .ok tokens => field.read state tokens
  | none =>
      match readColon tokens with
      | .error error => .error error
      | .ok tokens => (skipValue tokens).map fun rest => (state, rest)

def countSurplus (tokens : List Token) : Except ParseError Nat := do
  match ← readContinuation .list tokens with
  | .finished _ => .ok 0
  | .more tokens =>
      let (items, _) ← readItems (readValue levelLimit) tokens.length tokens
      .ok items.length

def readEnd (medium : Medium) (count : Nat) : List Token → Except ParseError (List Token)
  | [] => fail .endInList
  | .closing .list :: rest => .ok rest
  | .comma :: rest =>
      match medium, rest with
      | .text, .closing .list :: _ => fail .trailingComma
      | .text, _ => fail .trailingCharacters
      | .document, rest => do
          let surplus ← countSurplus (.comma :: rest)
          failData (.invalidLength (count + surplus) "fewer elements in array")
  | _ :: _ => fail .trailingCharacters

def readFields (medium : Medium) (count : Nat) : List (Field σ) → σ → Reader σ
  | [], state, tokens => (readEnd medium count tokens).map fun rest => (state, rest)
  | [field], state, tokens => do
      let (state, tokens) ← field.read state tokens
      let rest ← readEnd medium (count + 1) tokens
      .ok (state, rest)
  | field :: next :: fields, state, tokens => do
      let (state, tokens) ← field.read state tokens
      match ← readContinuation .list tokens with
      | .finished rest => .ok (state, rest)
      | .more tokens => readFields medium (count + 1) (next :: fields) state tokens

def readListed (medium : Medium) (record : Record σ α) (tokens : List Token) :
    Except ParseError (α × List Token) := do
  let (state, rest) ← match ← readStart .list tokens with
    | .finished rest => Except.ok (record.start, rest)
    | .more tokens => readFields medium 0 record.fields record.start tokens
  match record.complete state with
  | .ok value => .ok (value, rest)
  | .error missing =>
      failData (.invalidLength missing.place
        (record.title ++ s!" with {record.fields.length} elements"))

def readNamed (record : Record σ α) (tokens : List Token) :
    Except ParseError (α × List Token) := do
  let (state, rest) ← readObjectBody record.readField record.start tokens
  match record.complete state with
  | .ok value => .ok (value, rest)
  | .error missing => failData (.missingField missing.name)

def read (medium : Medium) (record : Nat → Record σ α) : Nat → Reader α
  | levels + 1, .opening .list :: rest => (record levels).readListed medium rest
  | levels + 1, .opening .object :: rest => (record levels).readNamed rest
  | 0, .opening _ :: _ => fail .recursionLimitExceeded
  | levels, tokens => mismatch (record levels).title tokens

end Record

end LinearStore.Json
