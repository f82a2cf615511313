import LinearStore.Json.Token
import LinearStore.Text.Basic

set_option autoImplicit false

namespace LinearStore.Json

inductive TextUnit where
  | char (c : Char)
  | code (value : Nat)
deriving DecidableEq, Repr

inductive TextEnd where
  | closed (rest : List Char)
  | cutShort
  | badLetter
  | badDigits
  | control
deriving DecidableEq, Repr

def TextEnd.error? : TextEnd → Option SyntaxError
  | .closed _ => none
  | .cutShort => some .endInString
  | .badLetter | .badDigits => some .invalidEscape
  | .control => some .controlCharacter

def codeOf? (a b c d : Char) : Option Nat :=
  match Text.hexValue? a, Text.hexValue? b, Text.hexValue? c, Text.hexValue? d with
  | some a, some b, some c, some d => some (((a * 16 + b) * 16 + c) * 16 + d)
  | _, _, _, _ => none

def escaped? : Char → Option Char
  | '"' => some '"'
  | '\\' => some '\\'
  | '/' => some '/'
  | 'b' => some '\x08'
  | 'f' => some '\x0c'
  | 'n' => some '\n'
  | 'r' => some '\r'
  | 't' => some '\t'
  | _ => none

-- An escape needs four bytes of text after its letter before its digits are looked at.
def shortEscape (rest : List Char) : TextEnd :=
  if rest.foldr (fun c bytes => c.utf8Size + bytes) 0 < 4 then .cutShort else .badDigits

def scanText : List Char → List TextUnit × TextEnd
  | [] => ([], .cutShort)
  | '"' :: rest => ([], .closed rest)
  | '\\' :: 'u' :: a :: b :: c :: d :: rest =>
      match codeOf? a b c d with
      | some value =>
          let found := scanText rest
          (.code value :: found.1, found.2)
      | none => ([], .badDigits)
  | '\\' :: 'u' :: rest => ([], shortEscape rest)
  | '\\' :: letter :: rest =>
      match escaped? letter with
      | some c =>
          let found := scanText rest
          (.char c :: found.1, found.2)
      | none => ([], .badLetter)
  | ['\\'] => ([], .cutShort)
  | c :: rest =>
      if c.toNat < 0x20 then ([], .control)
      else
        let found := scanText rest
        (.char c :: found.1, found.2)

def isHighHalf (number : Nat) : Bool := 0xd800 ≤ number && number ≤ 0xdbff

def isLowHalf (number : Nat) : Bool := 0xdc00 ≤ number && number ≤ 0xdfff

def joinHalves (high low : Nat) : Char :=
  Char.ofNat (0x10000 + (high - 0xd800) * 0x400 + (low - 0xdc00))

def TextEnd.afterHighHalf : TextEnd → SyntaxError
  | .cutShort => .endInString
  | .badDigits => .invalidEscape
  | .closed _ | .badLetter | .control => .unexpectedEndOfHexEscape

def joinUnits (stop : TextEnd) : List TextUnit → Except SyntaxError (List Char)
  | [] =>
      match stop.error? with
      | none => .ok []
      | some error => .error error
  | .char c :: rest => (joinUnits stop rest).map (c :: ·)
  | [.code value] =>
      if isLowHalf value then .error .loneLeadingSurrogate
      else if isHighHalf value then .error stop.afterHighHalf
      else (joinUnits stop []).map (Char.ofNat value :: ·)
  | .code value :: .char c :: rest =>
      if isLowHalf value then .error .loneLeadingSurrogate
      else if isHighHalf value then .error .unexpectedEndOfHexEscape
      else (joinUnits stop (.char c :: rest)).map (Char.ofNat value :: ·)
  | .code value :: .code next :: rest =>
      if isLowHalf value then .error .loneLeadingSurrogate
      else if isHighHalf value then
        if isLowHalf next then (joinUnits stop rest).map (joinHalves value next :: ·)
        else .error .loneLeadingSurrogate
      else (joinUnits stop (.code next :: rest)).map (Char.ofNat value :: ·)

def textToken (chars : List Char) : Token × List Char :=
  let scanned := scanText chars
  let rest := match scanned.2 with
    | .closed rest => rest
    | _ => []
  match joinUnits scanned.2 scanned.1 with
  | .ok content => (.scalar (.string (String.ofList content)), rest)
  | .error error => (.faulty true error scanned.2.error?, rest)

end LinearStore.Json
