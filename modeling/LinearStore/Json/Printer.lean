import LinearStore.Decimal.Shortest
import LinearStore.Json.Basic

set_option autoImplicit false

namespace LinearStore

namespace Decimal

structure Layout where
  leastPlain : Int
  greatestPlain : Int
deriving Repr

-- Numbers from 0.00001 up to but not including 10^16 are positional.
def jsonLayout : Layout := ⟨-5, 15⟩

def zeros (count : Int) : List Char := List.replicate count.toNat '0'

def positional (number : Digits) : List Char :=
  let count : Int := number.digits.length
  if number.point ≤ 0 then ['0', '.'] ++ zeros (-number.point) ++ number.digits
  else if count ≤ number.point then number.digits ++ zeros (number.point - count) ++ ['.', '0']
  else number.digits.take number.point.toNat ++ '.' :: number.digits.drop number.point.toNat

-- Scientific notation has a point only if a digit follows it, and signs every exponent.
def scientific (number : Digits) : List Char :=
  let exponent := number.point - 1
  let mantissa := match number.digits with
    | first :: second :: rest => first :: '.' :: second :: rest
    | digits => digits
  let sign := if exponent < 0 then '-' else '+'
  mantissa ++ 'e' :: sign :: Nat.toDigits 10 exponent.natAbs

def Layout.text (layout : Layout) (number : Digits) : List Char :=
  let exponent := number.point - 1
  if layout.leastPlain ≤ exponent ∧ exponent ≤ layout.greatestPlain then positional number
  else scientific number

end Decimal

namespace Number

def intChars (value : Int) : List Char :=
  if value < 0 then '-' :: Nat.toDigits 10 value.natAbs else Nat.toDigits 10 value.natAbs

def floatChars (value : Float) : List Char :=
  let bits := value.toBits
  let size := Decimal.Dyadic.ofBits bits
  let body :=
    if size.mantissa = 0 then ['0', '.', '0']
    else Decimal.jsonLayout.text (Decimal.shortest size)
  if bits.toNat < UInt64.size / 2 then body else '-' :: body

def chars : Number → List Char
  | int value => intChars value
  | float value => floatChars value

def text (number : Number) : String := String.ofList number.chars

end Number

namespace Json

def hexDigit (n : Nat) : Char := Nat.digitChar (n % 16)

def escapeChar (c : Char) : List Char :=
  match c with
  | '"' => ['\\', '"']
  | '\\' => ['\\', '\\']
  | '\x08' => ['\\', 'b']
  | '\x0c' => ['\\', 'f']
  | '\n' => ['\\', 'n']
  | '\r' => ['\\', 'r']
  | '\t' => ['\\', 't']
  | c =>
      if c.toNat < 0x20 then ['\\', 'u', '0', '0', hexDigit (c.toNat / 16), hexDigit c.toNat]
      else [c]

def writeString (text : String) (rest : List Char) : List Char :=
  '"' :: text.toList.foldr (fun c tail => escapeChar c ++ tail) ('"' :: rest)

mutual

def write : Json → List Char → List Char
  | null, rest => 'n' :: 'u' :: 'l' :: 'l' :: rest
  | bool true, rest => 't' :: 'r' :: 'u' :: 'e' :: rest
  | bool false, rest => 'f' :: 'a' :: 'l' :: 's' :: 'e' :: rest
  | number n, rest => n.chars ++ rest
  | string text, rest => writeString text rest
  | array items, rest => '[' :: writeItems items rest
  | object members, rest => '\x7b' :: writeMembers members rest

def writeItems : List Json → List Char → List Char
  | [], rest => ']' :: rest
  | [item], rest => item.write (']' :: rest)
  | item :: next :: items, rest => item.write (',' :: writeItems (next :: items) rest)

def writeMembers : List (String × Json) → List Char → List Char
  | [], rest => '\x7d' :: rest
  | [(name, value)], rest => writeString name (':' :: value.write ('\x7d' :: rest))
  | (name, value) :: next :: members, rest =>
      writeString name (':' :: value.write (',' :: writeMembers (next :: members) rest))

end

def compact (value : Json) : String := String.ofList (value.write [])

def newLine (depth : Nat) (rest : List Char) : List Char :=
  '\n' :: (List.replicate (2 * depth) ' ' ++ rest)

mutual

def writeIndented (depth : Nat) : Json → List Char → List Char
  | array [], rest => '[' :: ']' :: rest
  | array (item :: items), rest =>
      '[' :: newLine (depth + 1)
        (item.writeIndented (depth + 1) (writeItemsIndented depth items rest))
  | object [], rest => '\x7b' :: '\x7d' :: rest
  | object ((name, value) :: members), rest =>
      '\x7b' :: newLine (depth + 1) (writeString name (':' :: ' ' ::
        value.writeIndented (depth + 1) (writeMembersIndented depth members rest)))
  | value, rest => value.write rest

def writeItemsIndented (depth : Nat) : List Json → List Char → List Char
  | [], rest => newLine depth (']' :: rest)
  | item :: items, rest =>
      ',' :: newLine (depth + 1)
        (item.writeIndented (depth + 1) (writeItemsIndented depth items rest))

def writeMembersIndented (depth : Nat) : List (String × Json) → List Char → List Char
  | [], rest => newLine depth ('\x7d' :: rest)
  | (name, value) :: members, rest =>
      ',' :: newLine (depth + 1) (writeString name (':' :: ' ' ::
        value.writeIndented (depth + 1) (writeMembersIndented depth members rest)))

end

def indented (value : Json) : String := String.ofList (value.writeIndented 0 [])

end Json

end LinearStore
