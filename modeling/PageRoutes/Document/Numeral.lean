import PageRoutes.Document.Fault
import PageRoutes.Document.Value

/-! Numbers written in digits. -/

set_option autoImplicit false

namespace PageRoutes.Document.Numeral

def digitValue? (base : Nat) (c : Char) : Option Nat :=
  let value? :=
    if '0' ≤ c ∧ c ≤ '9' then some (c.toNat - 0x30)
    else if 'a' ≤ c ∧ c ≤ 'f' then some (c.toNat - 0x57)
    else if 'A' ≤ c ∧ c ≤ 'F' then some (c.toNat - 0x37)
    else none
  value?.filter (· < base)

def natural? (base : Nat) (digits : List Char) : Option Nat :=
  if digits.isEmpty then none
  else digits.foldl (fun total c => total.bind fun sum =>
    (digitValue? base c).map fun digit => base * sum + digit) (some 0)

/-- A sign and what comes after it; no sign counts as a plus. -/
def signed : List Char → Bool × List Char
  | '-' :: rest => (true, rest)
  | '+' :: rest => (false, rest)
  | text => (false, text)

def integerOf (negative : Bool) (size : Nat) : Int := if negative then -(size : Int) else size

/-- An integer with more decimal digits than this is refused. -/
def mostDigits : Nat := 4300

def digitLimit : String :=
  "Exceeds the limit (" ++ ToString.toString mostDigits ++ " digits) for integer string conversion"

def limitAdvice : String := "; use sys.set_int_max_str_digits() to increase the limit"

def tooManyDigits (count : Nat) : Fault :=
  .outOfRange (digitLimit ++ ": value has " ++ ToString.toString count ++ " digits" ++ limitAdvice)

def unwritable? : Value → Option Fault
  | .integer value =>
    if mostDigits < Number.Decimal.digitCount value.natAbs then
      some (.outOfRange (digitLimit ++ limitAdvice))
    else none
  | _ => none

def decimalInteger (negative : Bool) (digits : List Char) : Except Fault Value :=
  if mostDigits < digits.length then .error (tooManyDigits digits.length)
  else .ok (.integer (integerOf negative ((natural? 10 digits).getD 0)))

/-- Decimal exponents beyond this bound leave the grid of binary numbers in any case. -/
def largestExponent : Int := 400

/-- The real number nearest to `digits * 10 ^ exponent`. -/
def real (negative : Bool) (digits : Nat) (exponent : Int) : Number.Real :=
  let leading := exponent + Number.Decimal.digitCount digits
  if digits = 0 ∨ leading < -largestExponent then .finite negative Number.Binary.zero
  else if largestExponent < leading then .infinite negative
  else
    let (numerator, denominator) := (Number.Decimal.mk digits exponent).quotient
    .ofQuotient negative numerator denominator

/-- A decimal without a sign: digits, a point with more digits, an exponent; some digit has to
be there. -/
def decimal? (negative : Bool) (text : List Char) : Option Number.Real :=
  let whole := text.takeWhile Char.isDigit
  let behindWhole := text.dropWhile Char.isDigit
  let (fraction, behind) := match behindWhole with
    | '.' :: rest => (rest.takeWhile Char.isDigit, rest.dropWhile Char.isDigit)
    | other => ([], other)
  let exponent? : Option Int := match behind with
    | [] => some 0
    | c :: rest =>
      if c = 'e' ∨ c = 'E' then
        let (down, digits) := signed rest
        (natural? 10 digits).map (integerOf down)
      else none
  match natural? 10 (whole ++ fraction), exponent? with
  | some digits, some exponent => some (real negative digits (exponent - fraction.length))
  | _, _ => none

end PageRoutes.Document.Numeral
