import PageRoutes.Document.Calendar
import PageRoutes.Document.Fault
import PageRoutes.Document.SpelledNumber
import PageRoutes.Text.Lowercase

/-! The types of YAML 1.1 scalars.

A plain scalar has the type whose form it has: a truth value, a number in one of several
bases, null, a timestamp, and otherwise a text. A tag asks for a type whatever the form. A line
break at the end of a text does not change its form.
-/

set_option autoImplicit false

namespace PageRoutes.Document.Yaml

def standardTag (name : String) : String := "tag:yaml.org,2002:" ++ name

namespace Form

def isDigit (c : Char) : Bool := '0' ≤ c && c ≤ '9'

def isSpacedDigit (c : Char) : Bool := isDigit c || c = '_'

def isOneOf (words : List String) (text : List Char) : Bool :=
  words.any fun word => word.toList = text

def isBoolean : List Char → Bool :=
  isOneOf ["yes", "Yes", "YES", "no", "No", "NO", "true", "True", "TRUE", "false", "False", "FALSE",
    "on", "On", "ON", "off", "Off", "OFF"]

def isNull : List Char → Bool := isOneOf ["", "~", "null", "Null", "NULL"]

def spacedDigits (text : List Char) : Option (List Char × List Char) :=
  match text with
  | c :: _ =>
    if isDigit c then some (text.takeWhile isSpacedDigit, text.dropWhile isSpacedDigit) else none
  | [] => none

def isExponent : List Char → Bool
  | [] => true
  | e :: sign :: digits =>
    (e = 'e' || e = 'E') && (sign = '+' || sign = '-') && !digits.isEmpty && digits.all isDigit
  | _ => false

def isSixtieth : List Char → Bool
  | [c] => isDigit c
  | [c, d] => '0' ≤ c && c ≤ '5' && isDigit d
  | _ => false

def areSixtieths (text : List Char) : Bool :=
  match text.splitOn ':' with
  | [] :: first :: rest => (first :: rest).all isSixtieth
  | _ => false

def isReal (text : List Char) : Bool :=
  let (_, unsigned) := Numeral.signed text
  let pointed (rest : List Char) : Bool :=
    match rest with
    | '.' :: behind => isExponent (behind.dropWhile isSpacedDigit)
    | _ => false
  let sixtieths (rest : List Char) : Bool :=
    areSixtieths (rest.takeWhile (· ≠ '.')) &&
      match rest.dropWhile (· ≠ '.') with
      | '.' :: behind => behind.all isSpacedDigit
      | _ => false
  (match spacedDigits unsigned with
    | some (_, rest) => pointed rest || sixtieths rest
    | none => false) ||
  (match text with
    | '.' :: c :: rest => isDigit c && isExponent (rest.dropWhile isSpacedDigit)
    | _ => false) ||
  isOneOf [".inf", ".Inf", ".INF"] unsigned || isOneOf [".nan", ".NaN", ".NAN"] text

def isInteger (text : List Char) : Bool :=
  let (_, unsigned) := Numeral.signed text
  match unsigned with
  | ['0'] => true
  | '0' :: 'b' :: rest => !rest.isEmpty && rest.all fun c => c = '0' || c = '1' || c = '_'
  | '0' :: 'x' :: rest =>
    !rest.isEmpty && rest.all fun c => c = '_' || (Numeral.digitValue? 16 c).isSome
  | '0' :: rest => !rest.isEmpty && rest.all fun c => ('0' ≤ c && c ≤ '7') || c = '_'
  | _ =>
    match spacedDigits unsigned with
    | some (_, rest) => rest.isEmpty || areSixtieths rest
    | none => false

structure Timestamp where
  year : Nat
  month : Nat
  day : Nat
  /-- Month and day have two digits each. -/
  padded : Bool
  time : Option (Nat × Nat × Nat × Nat)
  offset : Option Int

def number (digits : List Char) : Nat :=
  digits.foldl (fun total c => 10 * total + (c.toNat - 0x30)) 0

def digitsBetween (least most : Nat) (text : List Char) : Option (List Char × List Char) :=
  let digits := (text.take most).takeWhile isDigit
  if digits.length < least then none else some (digits, text.drop digits.length)

def behind (c : Char) : List Char → Option (List Char)
  | d :: rest => if c = d then some rest else none
  | [] => none

/-- The offset at the end of a timestamp, in minutes. -/
def offset? (text : List Char) : Option (Option Int) := do
  match text.dropWhile fun c => c = ' ' || c = '\t' with
  | [] => if text.isEmpty then some none else none
  | ['Z'] => some (some 0)
  | sign :: rest => do
    if !(sign = '+' || sign = '-') then none
    else
      let (hours, rest) ← digitsBetween 1 2 rest
      let minutes ← match rest with
        | [] => some []
        | ':' :: more => do
          let (minutes, rest) ← digitsBetween 2 2 more
          if rest.isEmpty then some minutes else none
        | _ => none
      let size : Int := number hours * 60 + number minutes
      some (some (if sign = '-' then -size else size))

def timestamp? (text : List Char) : Option Timestamp := do
  let (year, rest) ← digitsBetween 4 4 text
  let (month, rest) ← digitsBetween 1 2 (← behind '-' rest)
  let (day, rest) ← digitsBetween 1 2 (← behind '-' rest)
  let padded := month.length = 2 && day.length = 2
  match rest with
  | [] => some ⟨number year, number month, number day, padded, none, none⟩
  | c :: more =>
    let unspaced := if c = 'T' || c = 't' then more
      else rest.dropWhile fun c => c = ' ' || c = '\t'
    if !(c = 'T' || c = 't' || c = ' ' || c = '\t') then none
    else
      let (hour, rest) ← digitsBetween 1 2 unspaced
      let (minute, rest) ← digitsBetween 2 2 (← behind ':' rest)
      let (second, rest) ← digitsBetween 2 2 (← behind ':' rest)
      let (fraction, rest) := match rest with
        | '.' :: digits => (digits.takeWhile isDigit, digits.dropWhile isDigit)
        | other => ([], other)
      let offset ← offset? rest
      some ⟨number year, number month, number day, padded,
        some (number hour, number minute, number second, Calendar.microseconds fraction), offset⟩

def isTimestamp (text : List Char) : Bool :=
  match timestamp? text with
  | some stamp => stamp.time.isSome || stamp.padded
  | none => false

end Form

/-- The part of a text that its form is judged by: one line break at its end does not count. -/
def judged (text : List Char) : List Char :=
  if text.getLast? = some '\n' then text.dropLast else text

def impliedTag (text : List Char) : String :=
  -- A line break alone has no form.
  let form := if text = ['\n'] then text else judged text
  standardTag
    (if Form.isBoolean form then "bool"
    else if Form.isReal form then "float"
    else if Form.isInteger form then "int"
    else if form = "<<".toList then "merge"
    else if Form.isNull form then "null"
    else if Form.isTimestamp form then "timestamp"
    else if form = "=".toList then "value"
    else if Form.isOneOf ["!", "&", "*"] form then "yaml"
    else "str")

namespace Scalar

def placeFactor : Nat := 60

def ofPlaces (places : List Int) : Int :=
  places.foldl (fun total place => placeFactor * total + place) 0

def magnitude (digits : List Char) : Except Fault Int :=
  match digits with
  | [] => .error .noDigits
  | ['0'] => .ok 0
  | '0' :: 'b' :: rest => SpelledNumber.integer 2 rest
  | '0' :: 'x' :: rest => SpelledNumber.integer 16 rest
  -- A zero in front means base eight, whatever the form was that brought the text here.
  | '0' :: _ => SpelledNumber.integer 8 digits
  | _ =>
    if digits.contains ':' then
      ((digits.splitOn ':').mapM (SpelledNumber.integer 10)).map ofPlaces
    else SpelledNumber.integer 10 digits

def integer (text : List Char) : Except Fault Value :=
  let (negative, digits) := Numeral.signed (text.filter (· ≠ '_'))
  (magnitude digits).map fun size => .integer (if negative then -size else size)

/-- The sum of places, the last one first; each term and each sum is rounded. -/
def sumOfPlaces : Nat → List Number.Real → Number.Real → Except Fault Number.Real
  | _, [], total => .ok total
  | factor, place :: rest, total =>
    let factorReal := Number.Real.ofInt factor
    if factorReal.isFinite then
      sumOfPlaces (placeFactor * factor) rest (total.add (place.mul factorReal))
    else .error .tooLarge

def realMagnitude (digits : List Char) : Except Fault Number.Real :=
  if digits = ".inf".toList then .ok (.infinite false)
  else if digits = ".nan".toList then .ok .notNumber
  else if digits.contains ':' then do
    let places ← (digits.splitOn ':').mapM SpelledNumber.real
    sumOfPlaces 1 places.reverse .zero
  else SpelledNumber.real digits

def real (text : List Char) : Except Fault Value :=
  let lower := Text.lowercase (text.filter (· ≠ '_'))
  let (negative, digits) := Numeral.signed lower
  if lower.isEmpty then .error .noDigits
  else (realMagnitude digits).map fun size => .real (if negative then size.neg else size)

def boolean (text : List Char) : Except Fault Value :=
  let lower := text.map Char.toLower
  if Form.isOneOf ["yes", "true", "on"] lower then .ok (.boolean true)
  else if Form.isOneOf ["no", "false", "off"] lower then .ok (.boolean false)
  else .error .notBoolean

def minutesOfDay : Int := 1440

def offsetFault (minutes : Int) : Fault :=
  let days := Int.fdiv minutes minutesOfDay
  let seconds := Int.fmod minutes minutesOfDay * 60
  .outOfRange ("offset must be a timedelta strictly between -timedelta(hours=24) and " ++
    "timedelta(hours=24), not datetime.timedelta(days=" ++ ToString.toString days ++
    (if seconds = 0 then "" else ", seconds=" ++ ToString.toString seconds) ++ ").")

def timestamp (text : List Char) : Except Fault Value :=
  match Form.timestamp? (judged text) with
  | none => .error .notTimestamp
  | some stamp =>
    let day := (Calendar.date stamp.year stamp.month stamp.day).mapError Fault.outOfRange
    match stamp.time with
    | none => day.map Value.date
    | some (hour, minute, second, microsecond) => do
      -- The offset is judged first, then the date, and the time of day last.
      match stamp.offset with
      | some minutes =>
        if minutesOfDay ≤ minutes.natAbs then throw (offsetFault minutes)
      | none => pure ()
      let date ← day
      let clock ←
        (Calendar.timeOfDay hour minute second microsecond).mapError Fault.outOfRange
      return .dateTime date clock stamp.offset

def sextet? (c : Char) : Option Nat :=
  if 'A' ≤ c ∧ c ≤ 'Z' then some (c.toNat - 0x41)
  else if 'a' ≤ c ∧ c ≤ 'z' then some (c.toNat - 0x61 + 26)
  else if '0' ≤ c ∧ c ≤ '9' then some (c.toNat - 0x30 + 52)
  else if c = '+' then some 62
  else if c = '/' then some 63
  else none

/-- Bytes of base-64 text: `held` are the sextets of the present group. Other characters are
passed over; padding that completes a group ends the text. -/
def bytesOf : List Char → List Nat → Nat → List UInt8 → Option (List UInt8)
  | [], held, _, done => if held.isEmpty then some done else none
  | c :: rest, held, padding, done =>
    if c = '=' then
      if 2 ≤ held.length ∧ 4 ≤ held.length + padding + 1 then some done
      else bytesOf rest held (if 2 ≤ held.length then padding + 1 else padding) done
    else
      match sextet? c, held with
      | none, _ => bytesOf rest held padding done
      | some value, [] => bytesOf rest [value] 0 done
      | some value, [a] => bytesOf rest [a, value] 0 (done ++ [UInt8.ofNat (a * 4 + value / 16)])
      | some value, [a, b] =>
        bytesOf rest [a, b, value] 0 (done ++ [UInt8.ofNat (b % 16 * 16 + value / 4)])
      | some value, _ =>
        bytesOf rest [] 0 (done ++ [UInt8.ofNat ((held.getLast?.getD 0) % 4 * 64 + value)])

def binary (text : List Char) : Except Fault Value :=
  if text.any fun c => 0x7f < c.toNat then .error (.malformed "failed to convert base64 data")
  else
    match bytesOf text [] 0 [] with
    | some bytes => .ok (.bytes bytes)
    | none => .error (.malformed "failed to decode base64 data")

/-- How a text is read that a tag asks to be a scalar; none where no scalar has the tag. -/
def reader? (tag : String) : Option (List Char → Except Fault Value) :=
  if tag = standardTag "str" then some fun text => .ok (.text (String.ofList text))
  else if tag = standardTag "null" then some fun _ => .ok .null
  else if tag = standardTag "bool" then some boolean
  else if tag = standardTag "int" then some integer
  else if tag = standardTag "float" then some real
  else if tag = standardTag "timestamp" then some timestamp
  else if tag = standardTag "binary" then some binary
  else none

end Scalar

end PageRoutes.Document.Yaml
