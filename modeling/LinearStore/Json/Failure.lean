import LinearStore.Json.Printer
import LinearStore.Text.Quoted

set_option autoImplicit false

namespace LinearStore

inductive SyntaxError where
  | endInValue
  | endInList
  | endInObject
  | endInString
  | expectedValue
  | expectedIdent
  | expectedColon
  | expectedListCommaOrEnd
  | expectedObjectCommaOrEnd
  | invalidNumber
  | numberOutOfRange
  | invalidEscape
  | unexpectedEndOfHexEscape
  | loneLeadingSurrogate
  | controlCharacter
  | keyMustBeString
  | trailingComma
  | trailingCharacters
  | recursionLimitExceeded
deriving DecidableEq, Repr

namespace SyntaxError

def isEnd : SyntaxError → Bool
  | endInValue | endInList | endInObject | endInString => true
  | _ => false

def message : SyntaxError → String
  | endInValue => "EOF while parsing a value"
  | endInList => "EOF while parsing a list"
  | endInObject => "EOF while parsing an object"
  | endInString => "EOF while parsing a string"
  | expectedValue => "expected value"
  | expectedIdent => "expected ident"
  | expectedColon => "expected \x60:\x60"
  | expectedListCommaOrEnd => "expected \x60,\x60 or \x60]\x60"
  | expectedObjectCommaOrEnd => "expected \x60,\x60 or \x60\x7d\x60"
  | invalidNumber => "invalid number"
  | numberOutOfRange => "number out of range"
  | invalidEscape => "invalid escape"
  | unexpectedEndOfHexEscape => "unexpected end of hex escape"
  | loneLeadingSurrogate => "lone leading surrogate in hex escape"
  | controlCharacter => "control character (\\u0000-\\u001F) found while parsing a string"
  | keyMustBeString => "key must be a string"
  | trailingComma => "trailing comma"
  | trailingCharacters => "trailing characters"
  | recursionLimitExceeded => "recursion limit exceeded"

end SyntaxError

inductive Scalar where
  | null
  | bool (value : Bool)
  | number (value : Number)
  | string (value : String)
deriving DecidableEq, Repr

def Scalar.json : Scalar → Json
  | .null => .null
  | .bool value => .bool value
  | .number value => .number value
  | .string value => .string value

inductive Found where
  | scalar (value : Scalar)
  | sequence
  | map
  | unitVariant
deriving DecidableEq, Repr

namespace Found

def text : Found → String
  | scalar .null => "null"
  | scalar (.bool value) => "boolean \x60" ++ toString value ++ "\x60"
  | scalar (.number (.int value)) =>
      "integer \x60" ++ (Number.int value).text ++ "\x60"
  | scalar (.number (.float value)) =>
      "floating point \x60" ++ (Number.float value).text ++ "\x60"
  | scalar (.string value) => "string " ++ Text.quoted value
  | sequence => "sequence"
  | map => "map"
  | unitVariant => "unit variant"

end Found

inductive DataError where
  | invalidType (found : Found) (expected : String)
  | invalidValue (found : Found) (expected : String)
  | invalidLength (length : Nat) (expected : String)
  | unknownVariant (name : String) (known : List String)
  | missingField (name : String)
  | duplicateField (name : String)
deriving DecidableEq, Repr

namespace DataError

def ticked (name : String) : String := "\x60" ++ name ++ "\x60"

def alternatives : List String → String
  | [a, b] => "expected " ++ ticked a ++ " or " ++ ticked b
  | names => "expected one of " ++ ", ".intercalate (names.map ticked)

def message : DataError → String
  | invalidType found expected => "invalid type: " ++ found.text ++ ", expected " ++ expected
  | invalidValue found expected => "invalid value: " ++ found.text ++ ", expected " ++ expected
  | invalidLength length expected => s!"invalid length {length}, expected " ++ expected
  | unknownVariant name known => "unknown variant " ++ ticked name ++ ", " ++ alternatives known
  | missingField name => "missing field " ++ ticked name
  | duplicateField name => "duplicate field " ++ ticked name

end DataError

inductive ParseError where
  | grammar (error : SyntaxError)
  | data (error : DataError)
deriving DecidableEq, Repr

namespace ParseError

def message : ParseError → String
  | grammar error => error.message
  | data error => error.message

end ParseError

end LinearStore
