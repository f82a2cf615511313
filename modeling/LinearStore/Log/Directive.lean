import LinearStore.Event
import LinearStore.Log.Pattern
import LinearStore.Text.Basic

set_option autoImplicit false

namespace LinearStore.Log

structure FieldTest where
  name : String
  hasValue : Bool
deriving DecidableEq, Repr

namespace FieldTest

def unsigned : List Char → List Char
  | '+' :: rest | '-' :: rest => rest
  | text => text

def isExponent : List Char → Bool
  | [] => true
  | c :: rest =>
      let digits := unsigned rest
      (c == 'e' || c == 'E') && !digits.isEmpty && digits.all Char.isDigit

def isDecimal (text : List Char) : Bool :=
  let whole := text.takeWhile Char.isDigit
  match text.dropWhile Char.isDigit with
  | '.' :: rest =>
      !(whole ++ rest.takeWhile Char.isDigit).isEmpty && isExponent (rest.dropWhile Char.isDigit)
  | rest => !whole.isEmpty && isExponent rest

-- A number may have a sign, and may be infinite or none at all.
def isNumber (text : List Char) : Bool :=
  let body := unsigned text
  ["inf", "infinity", "nan"].contains (String.ofList (body.map Char.toLower)) || isDecimal body

-- The name goes up to the first equals sign, and the value up to the second.
def ofText? (text : String) : Option FieldTest :=
  match text.splitOn "=" with
  | name :: value :: _ =>
      if isNumber value.toList || isPattern value.toList then some ⟨name, true⟩ else none
  | _ => if text.isEmpty then none else some ⟨text, false⟩

end FieldTest

abbrev Threshold := Nat

def everything : Threshold := Level.trace.detail

def levelNames : List (String × Threshold) :=
  [("error", 1), ("warn", 2), ("info", 3), ("debug", 4), ("trace", 5), ("off", 0)]

def thresholdOf? (text : String) : Option Threshold :=
  let byName := (levelNames.find? fun entry => entry.1 = text.map Char.toLower).map Prod.snd
  match Text.wordOf text with
  | .ok n => if n.toNat ≤ everything then some n.toNat else byName
  | .error _ => byName

structure Directive where
  target : Option String := none
  span : Option String := none
  fields : List FieldTest := []
  threshold : Threshold := everything
deriving DecidableEq, Repr

namespace Directive

inductive State where
  | start
  | levelOrTarget (start : Nat)
  | span (start : Nat)
  | field (start : Nat)
  | fieldsEnd
  | bracketsEnd
  | level (start : Nat)
deriving DecidableEq, Repr

def dropBytes : Nat → List Char → List Char
  | 0, text => text
  | _, [] => []
  | count, c :: rest => dropBytes (count - c.utf8Size) rest

def takeBytes : Nat → List Char → List Char
  | 0, _ => []
  | _, [] => []
  | count, c :: rest => c :: takeBytes (count - c.utf8Size) rest

-- The characters from one place up to but not including another; places count bytes.
def cut (text : List Char) (start stop : Nat) : String :=
  String.ofList (takeBytes (stop - start) (dropBytes start text))

def endOf (text : List Char) : Nat := text.foldr (fun c bytes => c.utf8Size + bytes) 0

def canStart (c : Char) : Bool := c == '-' || c == ':' || c == '_' || Text.isWordChar c

def spanOf? (text : String) : Option String := if text.isEmpty then none else some text

def scan (text : List Char) (place : Nat) (c : Char) (directive : Directive) :
    State → Option (State × Directive)
  | .start =>
      if c = '[' then some (.span (place + 1), directive)
      else if canStart c then some (.levelOrTarget place, directive)
      else none
  | .levelOrTarget start =>
      if c = '=' then
        some (.level (place + 1), { directive with target := some (cut text start place) })
      else if c = '[' then
        some (.span (place + 1), { directive with target := some (cut text start place) })
      else some (.levelOrTarget start, directive)
  | .span start =>
      if c = ']' then
        some (.bracketsEnd, { directive with span := some (cut text start place) })
      else if c = '\x7b' then
        some (.field (place + 1), { directive with span := spanOf? (cut text start place) })
      else some (.span start, directive)
  | .field start =>
      if c = '\x7d' then
        (FieldTest.ofText? (cut text start place)).map fun field =>
          (.fieldsEnd, { directive with fields := directive.fields ++ [field] })
      else some (.field start, directive)
  | .fieldsEnd => if c = ']' then some (.bracketsEnd, directive) else none
  | .bracketsEnd => if c = '=' then some (.level (place + 1), directive) else none
  | .level start => some (.level start, directive)

def scanFrom (text : List Char) (place : Nat) (state : State) (directive : Directive) :
    List Char → Option (State × Directive)
  | [] => some (state, directive)
  | c :: rest =>
      match directive.scan text place c state with
      | none => none
      | some (state, directive) => scanFrom text (place + c.utf8Size) state directive rest

-- A bare word is a level if it names one, and otherwise a target of which everything passes.
def ofWord (directive : Directive) (word : String) : Directive :=
  match thresholdOf? word with
  | some threshold => { directive with threshold }
  | none => { directive with target := some word }

def finish (text : List Char) (directive : Directive) : State → Option Directive
  | .levelOrTarget start => some (directive.ofWord (cut text start (endOf text)))
  | .level start =>
      let level := cut text start (endOf text)
      if level.isEmpty then some directive
      else (thresholdOf? level).map fun threshold => { directive with threshold }
  | .bracketsEnd => some directive
  | _ => none

-- Blanks around a directive are not scanned, but the parts are cut from the text as it stands.
def ofText? (text : String) : Option Directive :=
  let chars := text.toList
  match scanFrom chars 0 .start {} (Text.trim chars) with
  | none => none
  | some (state, directive) => directive.finish chars state

def dependsOnSpan (directive : Directive) : Bool :=
  directive.span.isSome || !directive.fields.isEmpty

end Directive

end LinearStore.Log
