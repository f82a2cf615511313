import LinearStore.Json.Reader

set_option autoImplicit false

namespace LinearStore.Json

inductive Awaited where
  | value
  | inside
  | separator
  | key
  | colon
deriving DecidableEq, Repr

-- A value that nobody asked for is checked for its grammar and nothing else: neither how deeply it
-- nests, nor the numbers and characters that it writes.
structure Place where
  awaited : Awaited
  enclosing : List Enclosure
deriving DecidableEq, Repr

namespace Place

def start : Place := ⟨.value, []⟩

-- Nothing encloses the end of a value but what the reader is in.
def isDone (place : Place) : Bool := place.awaited == .separator && place.enclosing.isEmpty

def cutShort : Place → SyntaxError
  | ⟨.value, _⟩ => .endInValue
  | ⟨_, []⟩ => .endInValue
  | ⟨_, enclosure :: _⟩ => enclosure.cutShort

def afterScalar (enclosing : List Enclosure) (onSkip : Option SyntaxError) (next : Awaited) :
    Except SyntaxError Place :=
  match onSkip with
  | none => .ok ⟨next, enclosing⟩
  | some error => .error error

def passValue (enclosing : List Enclosure) : Token → Except SyntaxError Place
  | .opening enclosure => .ok ⟨.inside, enclosure :: enclosing⟩
  | .scalar _ => .ok ⟨.separator, enclosing⟩
  | .faulty _ _ onSkip => afterScalar enclosing onSkip .separator
  | _ => .error .expectedValue

def passKey (enclosing : List Enclosure) : Token → Except SyntaxError Place
  | .scalar (.string _) => .ok ⟨.colon, enclosing⟩
  | .faulty true _ onSkip => afterScalar enclosing onSkip .colon
  | _ => .error .keyMustBeString

def pass (token : Token) : Place → Except SyntaxError Place
  | ⟨.value, enclosing⟩ => passValue enclosing token
  | ⟨.key, enclosing⟩ => passKey enclosing token
  | ⟨.colon, enclosing⟩ =>
      if token = .colon then .ok ⟨.value, enclosing⟩ else .error .expectedColon
  | ⟨.inside, []⟩ | ⟨.separator, []⟩ => .error .expectedValue
  | ⟨.inside, enclosure :: enclosing⟩ =>
      if token = .closing enclosure then .ok ⟨.separator, enclosing⟩
      else
        match enclosure with
        | .list => passValue (enclosure :: enclosing) token
        | .object => passKey (enclosure :: enclosing) token
  | ⟨.separator, enclosure :: enclosing⟩ =>
      if token = .closing enclosure then .ok ⟨.separator, enclosing⟩
      else if token = .comma then
        match enclosure with
        | .list => .ok ⟨.value, enclosure :: enclosing⟩
        | .object => .ok ⟨.key, enclosure :: enclosing⟩
      else .error enclosure.unseparated

end Place

def skipFrom (place : Place) : List Token → Except ParseError (List Token)
  | [] => fail place.cutShort
  | token :: rest =>
      match place.pass token with
      | .error error => fail error
      | .ok next => if next.isDone then .ok rest else skipFrom next rest

def skipValue (tokens : List Token) : Except ParseError (List Token) := skipFrom .start tokens

end LinearStore.Json
