import PageRoutes.Number.Shortest

/-! Real numbers with 53 significant bits: a sign and a size, an infinity, or no number at all.

Sums and products are formed exactly and then rounded once. A zero keeps a sign of its own. A
number is written with the fewest digits that read back, with a point or an exponent.
-/

set_option autoImplicit false

namespace PageRoutes.Number

inductive Real where
  | finite (negative : Bool) (size : Binary)
  | infinite (negative : Bool)
  | notNumber
  deriving DecidableEq

namespace Real

def zero : Real := .finite false Binary.zero

def isZero : Real → Bool
  | .finite _ size => size.mantissa = 0
  | _ => false

/-- The number nearest to a quotient; one beyond the end of the grid is infinite. -/
def ofQuotient (negative : Bool) (numerator denominator : Nat) : Real :=
  let size := Binary.nearest numerator denominator
  if size.isFinite then .finite negative size else .infinite negative

def ofScaled (negative : Bool) (mantissa : Nat) (exponent : Int) : Real :=
  let (numerator, denominator) := Binary.inUnits mantissa 1 (-exponent)
  ofQuotient negative numerator denominator

def ofInt (value : Int) : Real := ofQuotient (value < 0) value.natAbs 1

def isFinite : Real → Bool
  | .finite .. => true
  | _ => false

def neg : Real → Real
  | .finite negative size => .finite (!negative) size
  | .infinite negative => .infinite (!negative)
  | .notNumber => .notNumber

def inUnits (negative : Bool) (size : Binary) (exponent : Int) : Int :=
  let count := size.mantissa * Nat.pow 2 (size.exponent - exponent).toNat
  if negative then -(count : Int) else count

def add : Real → Real → Real
  | .finite a x, .finite b y =>
    let exponent := min x.exponent y.exponent
    let sum := inUnits a x exponent + inUnits b y exponent
    -- Numbers that cancel leave a zero without a sign, unless both had one.
    ofScaled (if sum = 0 then a && b else sum < 0) sum.natAbs exponent
  | .infinite a, .infinite b => if a = b then .infinite a else .notNumber
  | .infinite a, .finite .. => .infinite a
  | .finite .., .infinite b => .infinite b
  | .notNumber, _ => .notNumber
  | _, .notNumber => .notNumber

def mul : Real → Real → Real
  | .finite a x, .finite b y =>
    ofScaled (a != b) (x.mantissa * y.mantissa) (x.exponent + y.exponent)
  | .infinite a, .infinite b => .infinite (a != b)
  | .infinite a, .finite b y => if y.mantissa = 0 then .notNumber else .infinite (a != b)
  | .finite a x, .infinite b => if x.mantissa = 0 then .notNumber else .infinite (a != b)
  | .notNumber, _ => .notNumber
  | _, .notNumber => .notNumber

def divide (number : Real) (divisor : Nat) : Real :=
  match number with
  | .finite negative size =>
    let (numerator, denominator) := Binary.inUnits size.mantissa divisor (-size.exponent)
    ofQuotient negative numerator denominator
  | other => other

/-- Decimal exponents from this one to the next bound are written positionally. -/
def leastPositional : Int := -4

def endOfPositional : Int := 16

def trimmed (digits : List Char) : List Char :=
  (digits.reverse.dropWhile (· = '0')).reverse

def exponentText (exponent : Int) : List Char :=
  let digits := Nat.toDigits 10 exponent.natAbs
  (if exponent < 0 then '-' else '+') :: (if digits.length < 2 then '0' :: digits else digits)

def layOut (digits : List Char) (leading : Int) : List Char :=
  if leading < leastPositional || endOfPositional ≤ leading then
    let fraction := digits.drop 1
    digits.take 1 ++ (if fraction.isEmpty then [] else '.' :: fraction) ++
      'e' :: exponentText leading
  else if leading < 0 then
    '0' :: '.' :: List.replicate (-leading - 1).toNat '0' ++ digits
  else
    let whole := (leading + 1).toNat
    let padded := digits ++ List.replicate (whole - digits.length) '0'
    let fraction := padded.drop whole
    padded.take whole ++ '.' :: (if fraction.isEmpty then ['0'] else fraction)

def sizeText (size : Binary) : List Char :=
  if size.mantissa = 0 then "0.0".toList
  else
    let decimal := Decimal.shortest size
    let digits := Nat.toDigits 10 decimal.digits
    layOut (trimmed digits) (decimal.exponent + digits.length - 1)

def signText (negative : Bool) : String := if negative then "-" else ""

def text : Real → String
  | .finite negative size => signText negative ++ String.ofList (sizeText size)
  | .infinite negative => signText negative ++ "inf"
  | .notNumber => "nan"

/-- The nearest integer with the sign of the number, which a zero keeps too. -/
def wholeText : Real → String
  | .finite negative size => signText negative ++ ToString.toString size.round
  | other => other.text

def round : Real → Int
  | .finite negative size => if negative then -(size.round : Int) else size.round
  | _ => 0

theorem add_comm (first second : Real) : first.add second = second.add first := by
  cases first <;> cases second <;>
    simp [add, Int.add_comm, Bool.and_comm, Int.min_comm, eq_comm]
  split <;> simp_all

theorem neg_neg (number : Real) : number.neg.neg = number := by
  cases number <;> simp [neg]

end Real

end PageRoutes.Number
