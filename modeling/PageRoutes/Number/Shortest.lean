import PageRoutes.Number.Binary

/-! The shortest decimal that reads back as a given binary number.

The reals that round to a number form an interval, whose ends belong to it when the mantissa
is even. For one digit, two digits and so on the two neighbours of the number on the decimal
grid are tried; the first grid with a neighbour inside the interval wins, of two the nearer,
and of two equally near ones the even one.
-/

set_option autoImplicit false

namespace PageRoutes.Number

structure Decimal where
  digits : Nat
  exponent : Int
  deriving DecidableEq

namespace Decimal

def digitCount (number : Nat) : Nat := (Nat.toDigits 10 number).length

def quotient (decimal : Decimal) : Nat × Nat :=
  if decimal.exponent < 0 then (decimal.digits, Nat.pow 10 (-decimal.exponent).toNat)
  else (decimal.digits * Nat.pow 10 decimal.exponent.toNat, 1)

def toBinary (decimal : Decimal) : Binary :=
  Binary.nearest decimal.quotient.1 decimal.quotient.2

def gridPosition (number : Binary) (exponent : Int) : Nat × Nat :=
  let up := if number.exponent < 0 then 1 else Nat.pow 2 number.exponent.toNat
  let down := if number.exponent < 0 then Nat.pow 2 (-number.exponent).toNat else 1
  if exponent < 0 then (number.mantissa * up * Nat.pow 10 (-exponent).toNat, down)
  else (number.mantissa * up, down * Nat.pow 10 exponent.toNat)

def onGrid? (number : Binary) (exponent : Int) : Option Decimal :=
  let (numerator, denominator) := gridPosition number exponent
  let floor := numerator / denominator
  let nearest := roundDiv numerator denominator
  let other := if nearest = floor then floor + 1 else floor
  [nearest, other].map (Decimal.mk · exponent) |>.find? fun decimal => decimal.toBinary = number

def search (number : Binary) : Nat → Int → Decimal
  | 0, exponent => (onGrid? number exponent).getD ⟨0, 0⟩
  | finer + 1, exponent =>
    match onGrid? number exponent with
    | some decimal => decimal
    | none => search number finer (exponent - 1)

/-- Seventeen digits always suffice; the search starts above the leading digit. -/
def shortest (number : Binary) : Decimal :=
  let leading : Int := ((number.mantissa.log2 + number.exponent) * 30103) / 100000
  search number 20 (leading + 1)

end Decimal

end PageRoutes.Number
