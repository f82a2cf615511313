import LinearStore.Json.Token

set_option autoImplicit false

namespace LinearStore

structure Numeral where
  negative : Bool
  whole : List Char
  fraction : List Char
  -- Whether the exponent is negative, and its digits.
  exponent : Option (Bool × List Char)
deriving DecidableEq, Repr

inductive NumeralFault where
  | cutShort
  | misspelt
deriving DecidableEq, Repr

namespace NumeralFault

def onRead : NumeralFault → SyntaxError
  | cutShort => .endInValue
  | misspelt => .invalidNumber

def noDigit : List Char → NumeralFault
  | [] => cutShort
  | _ :: _ => misspelt

end NumeralFault

namespace Numeral

def isDigit (c : Char) : Bool := '0' ≤ c && c ≤ '9'

def digitValue (c : Char) : Nat := c.toNat - '0'.toNat

def someDigits (chars : List Char) : Except NumeralFault (List Char × List Char) :=
  match chars.takeWhile isDigit with
  | [] => .error (.noDigit chars)
  | first :: digits => .ok (first :: digits, chars.dropWhile isDigit)

def wholeDigits : List Char → Except NumeralFault (List Char × List Char)
  | '0' :: next :: rest =>
      if isDigit next then .error .misspelt else .ok (['0'], next :: rest)
  | chars => someDigits chars

def fractionDigits : List Char → Except NumeralFault (List Char × List Char)
  | '.' :: rest => someDigits rest
  | chars => .ok ([], chars)

def exponentSign : List Char → Bool × List Char
  | '-' :: rest => (true, rest)
  | '+' :: rest => (false, rest)
  | chars => (false, chars)

def exponentDigits : List Char → Except NumeralFault (Option (Bool × List Char) × List Char)
  | [] => .ok (none, [])
  | c :: rest =>
      if c = 'e' ∨ c = 'E' then
        let sign := exponentSign rest
        match someDigits sign.2 with
        | .ok (digits, rest) => .ok (some (sign.1, digits), rest)
        | .error fault => .error fault
      else .ok (none, c :: rest)

def scanUnsigned (negative : Bool) (chars : List Char) :
    Except NumeralFault (Numeral × List Char) := do
  let (whole, chars) ← wholeDigits chars
  let (fraction, chars) ← fractionDigits chars
  let (exponent, chars) ← exponentDigits chars
  return (⟨negative, whole, fraction, exponent⟩, chars)

def scan : List Char → Except NumeralFault (Numeral × List Char)
  | '-' :: rest => scanUnsigned true rest
  | chars => scanUnsigned false chars

def wordBound : Nat := UInt64.size

def foldDigits (digits : List Char) : Nat := digits.foldl (fun n c => n * 10 + digitValue c) 0

-- Digits gathered in a machine word, and the power of ten that the word counts.
structure Scaled where
  significand : Nat
  power : Int
deriving DecidableEq, Repr

-- Gathers the digits before the point. From the first that does not fit on, digits only count.
def gatherWhole (significand : Nat) : List Char → Scaled
  | [] => ⟨significand, 0⟩
  | c :: rest =>
      let next := significand * 10 + digitValue c
      if next < wordBound then gatherWhole next rest else ⟨significand, rest.length + 1⟩

def gatherFraction (scaled : Scaled) : List Char → Scaled
  | [] => scaled
  | c :: rest =>
      let next := scaled.significand * 10 + digitValue c
      if next < wordBound then gatherFraction ⟨next, scaled.power - 1⟩ rest else scaled

def isIntegral (numeral : Numeral) : Bool :=
  numeral.fraction.isEmpty && numeral.exponent.isNone

def greatestPower : Nat := 308

def powerOfTen (n : Nat) : Float := Float.ofScientific 1 false n

def signed (negative : Bool) (size : Float) : Float := if negative then -size else size

def scaleDown (size : Float) : Nat → Nat → Float
  | _, 0 => size
  | power, steps + 1 =>
      if power ≤ greatestPower then size / powerOfTen power
      else if size == 0 then size
      else scaleDown (size / powerOfTen greatestPower) (power - greatestPower) steps

def scale (significand : Nat) (power : Int) : Except SyntaxError Float :=
  let size := significand.toUInt64.toFloat
  if power < 0 then .ok (scaleDown size power.natAbs power.natAbs)
  else if power.natAbs ≤ greatestPower then
    let scaled := size * powerOfTen power.natAbs
    if scaled.isInf then .error .numberOutOfRange else .ok scaled
  else if significand = 0 then .ok size
  else .error .numberOutOfRange

def powerBound : Nat := UInt32.size / 2

def clampPower (power : Int) : Int := max (-powerBound) (min (powerBound - 1) power)

def size (scaled : Scaled) : Option (Bool × List Char) → Except SyntaxError Float
  | none => scale scaled.significand scaled.power
  | some (negative, digits) =>
      let exponent := foldDigits digits
      if exponent < powerBound then
        scale scaled.significand
          (clampPower (if negative then scaled.power - exponent else scaled.power + exponent))
      else if negative ∨ scaled.significand = 0 then .ok 0
      else .error .numberOutOfRange

-- The value of a numeral. A negative zero is a binary fraction, as integers have one zero only.
def value (numeral : Numeral) : Except SyntaxError Number :=
  let whole := gatherWhole 0 numeral.whole
  let asFraction : Except SyntaxError Number :=
    (size (gatherFraction whole numeral.fraction) numeral.exponent).map fun size =>
      .float (signed numeral.negative size)
  if numeral.isIntegral ∧ whole.power = 0 then
    if numeral.negative then
      if 0 < whole.significand ∧ whole.significand ≤ wordBound / 2 then
        .ok (.int (-whole.significand))
      else .ok (.float (-whole.significand.toUInt64.toFloat))
    else .ok (.int whole.significand)
  else asFraction

end Numeral

namespace Json

def numeralToken (chars : List Char) : Token × List Char :=
  match Numeral.scan chars with
  | .error fault => (.faulty false fault.onRead (some .invalidNumber), [])
  | .ok (numeral, rest) =>
      match numeral.value with
      | .ok value => (.scalar (.number value), rest)
      | .error error => (.faulty false error none, rest)

end Json

end LinearStore
