set_option autoImplicit false

namespace LinearStore.Decimal

structure Dyadic where
  mantissa : Nat
  exponent : Int
deriving DecidableEq, Repr

namespace Dyadic

-- The bit that a mantissa leads with and does not store.
def hiddenBit : Nat := 1 <<< 52

def ofBits (bits : UInt64) : Dyadic :=
  let word := bits.toNat
  let fraction := word % hiddenBit
  let biased := word / hiddenBit % (1 <<< 11)
  if biased = 0 then ⟨fraction, -1074⟩ else ⟨hiddenBit + fraction, Int.ofNat biased - 1075⟩

end Dyadic

-- A number between its rounding bounds, as numerators over one denominator. The bounds belong to
-- the number where the mantissa is even.
structure Bracket where
  low : Nat
  value : Nat
  high : Nat
  denominator : Nat
  closed : Bool
deriving Repr

namespace Bracket

-- The bounds lie half way to the neighbours; below a power of two the neighbours are closer.
def ofDyadic (number : Dyadic) : Bracket :=
  let scale := 1 <<< (number.exponent - 2).toNat
  let below := if number.mantissa = Dyadic.hiddenBit ∧ -1074 < number.exponent then 1 else 2
  { low := (4 * number.mantissa - below) * scale
    value := 4 * number.mantissa * scale
    high := (4 * number.mantissa + 2) * scale
    denominator := 1 <<< (2 - number.exponent).toNat
    closed := number.mantissa % 2 == 0 }

def admits (bracket : Bracket) (numerator : Nat) : Bool :=
  if bracket.closed then
    decide (bracket.low ≤ numerator) && decide (numerator ≤ bracket.high)
  else decide (bracket.low < numerator) && decide (numerator < bracket.high)

def leadingZeros (numerator denominator : Nat) : Nat → Nat
  | 0 => 0
  | steps + 1 =>
      if denominator ≤ 10 * numerator then 0
      else leadingZeros (10 * numerator) denominator steps + 1

def magnitude (bracket : Bracket) : Int :=
  let whole := bracket.value / bracket.denominator
  if whole = 0 then -(leadingZeros bracket.value bracket.denominator 400 : Int)
  else ((Nat.toDigits 10 whole).length : Int)

def measured (bracket : Bracket) (place : Int) : Bracket :=
  let up := Nat.pow 10 (-place).toNat
  { low := bracket.low * up
    value := bracket.value * up
    high := bracket.high * up
    denominator := bracket.denominator * Nat.pow 10 place.toNat
    closed := bracket.closed }

-- The whole number nearest to the value that lies within the bounds; a tie goes to the even one.
def nearestWhole? (bracket : Bracket) : Option Nat :=
  let unit := bracket.denominator
  let floor := bracket.value / unit
  let rest := bracket.value % unit
  match bracket.admits (floor * unit), bracket.admits ((floor + 1) * unit) with
  | false, false => none
  | true, false => some floor
  | false, true => some (floor + 1)
  | true, true =>
      if 2 * rest < unit then some floor
      else if unit < 2 * rest then some (floor + 1)
      else some (floor + floor % 2)

-- Decimal grids are tried from coarse to fine, and the arithmetic on them is exact.
def shortestFrom (bracket : Bracket) (magnitude : Int) : Nat → Nat → Nat × Int
  | _, 0 =>
      let place := magnitude - 17
      let fine := bracket.measured place
      (fine.value / fine.denominator, place)
  | digits, tries + 1 =>
      let place := magnitude - digits
      match (bracket.measured place).nearestWhole? with
      | some whole => (whole, place)
      | none => shortestFrom bracket magnitude (digits + 1) tries

end Bracket

structure Digits where
  digits : List Char
  point : Int
deriving DecidableEq, Repr

def withoutTrailingZeros (digits : List Char) : List Char :=
  (digits.reverse.dropWhile (· == '0')).reverse

def shortest (number : Dyadic) : Digits :=
  let bracket := Bracket.ofDyadic number
  let found := bracket.shortestFrom bracket.magnitude 1 17
  let digits := Nat.toDigits 10 found.1
  ⟨withoutTrailingZeros digits, found.2 + digits.length⟩

end LinearStore.Decimal
