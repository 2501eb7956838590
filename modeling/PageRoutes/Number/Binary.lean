/-! Binary numbers with 53 significant bits.

A quotient is rounded to the nearest number of the grid, a tie to the even neighbour. The
grid gets no finer than `2^-1074`, and from `2^1024` on there are no numbers.
-/

set_option autoImplicit false

namespace PageRoutes.Number

/-- The integer nearest to a quotient; a half goes to the even neighbour. -/
def roundDiv (numerator denominator : Nat) : Nat :=
  let quotient := numerator / denominator
  let rest := numerator % denominator
  if 2 * rest < denominator then quotient
  else if denominator < 2 * rest then quotient + 1
  else quotient + quotient % 2

/-- The number `mantissa * 2 ^ exponent`. -/
structure Binary where
  mantissa : Nat
  exponent : Int
  deriving DecidableEq

namespace Binary

def zero : Binary := ⟨0, 0⟩

def significantBits : Nat := 53

def leastExponent : Int := -1074

def isFinite (number : Binary) : Bool :=
  number.mantissa.log2 + number.exponent < 1024

/-- The quotient in units of `2 ^ exponent`, as a numerator and a denominator. -/
def inUnits (numerator denominator : Nat) (exponent : Int) : Nat × Nat :=
  if exponent < 0 then (numerator * Nat.pow 2 (-exponent).toNat, denominator)
  else (numerator, denominator * Nat.pow 2 exponent.toNat)

def gridExponent (numerator denominator : Nat) : Int :=
  let guess : Int := numerator.log2 - denominator.log2 - significantBits
  let (scaled, unit) := inUnits numerator denominator guess
  let exponent := if Nat.pow 2 significantBits ≤ scaled / unit then guess + 1 else guess
  max exponent leastExponent

def nearest (numerator denominator : Nat) : Binary :=
  if numerator = 0 then zero
  else
    let exponent := gridExponent numerator denominator
    let (scaled, unit) := inUnits numerator denominator exponent
    let mantissa := roundDiv scaled unit
    -- Rounding up may carry into one bit more.
    if mantissa = Nat.pow 2 significantBits then
      ⟨Nat.pow 2 (significantBits - 1), exponent + 1⟩
    else ⟨mantissa, exponent⟩

/-- The nearest integer; a half goes to the even neighbour. -/
def round (number : Binary) : Nat :=
  if number.exponent < 0 then roundDiv number.mantissa (Nat.pow 2 (-number.exponent).toNat)
  else number.mantissa * Nat.pow 2 number.exponent.toNat

end Binary

theorem roundDiv_mul (quotient denominator : Nat) (positive : 0 < denominator) :
    roundDiv (quotient * denominator) denominator = quotient := by
  simp [roundDiv, Nat.mul_div_cancel _ positive, positive]

theorem roundDiv_close (numerator denominator : Nat) (positive : 0 < denominator) :
    2 * numerator ≤ 2 * (roundDiv numerator denominator * denominator) + denominator ∧
      2 * (roundDiv numerator denominator * denominator) ≤ 2 * numerator + denominator := by
  have whole := Nat.div_add_mod numerator denominator
  have small := Nat.mod_lt numerator positive
  have parity : numerator / denominator % 2 = 0 ∨ numerator / denominator % 2 = 1 := by omega
  rw [Nat.mul_comm] at whole
  unfold roundDiv
  simp only
  split
  · omega
  · split
    · rw [Nat.add_mul]; omega
    · rw [Nat.add_mul]
      rcases parity with even | odd
      · rw [even]; omega
      · rw [odd]; omega

end PageRoutes.Number
