import PageRoutes.Number.Real
import PageRoutes.Text.Quoted

/-! The values of a document: scalars, lists, and mappings in the order of their entries.

Each value has the word for its kind and a written form that messages use.
-/

set_option autoImplicit false

namespace PageRoutes.Document

structure Date where
  year : Nat
  month : Nat
  day : Nat
  deriving DecidableEq

structure ClockTime where
  hour : Nat
  minute : Nat
  second : Nat
  microsecond : Nat
  deriving DecidableEq

inductive Value where
  | null
  | boolean (value : Bool)
  | integer (value : Int)
  | real (value : Number.Real)
  | text (value : String)
  | bytes (value : List UInt8)
  | date (value : Date)
  /-- A date and a time, with the offset from the universal time in minutes if there is one. -/
  | dateTime (day : Date) (time : ClockTime) (offset : Option Int)
  | time (value : ClockTime)
  | list (items : List Value)
  | members (items : List Value)
  | mapping (entries : List (Value × Value))
  deriving Inhabited

abbrev Keyed (α : Type) := List (Value × α)

abbrev Entries := Keyed Value

namespace Value

def kindName : Value → String
  | .null => "NoneType"
  | .boolean _ => "bool"
  | .integer _ => "int"
  | .real _ => "float"
  | .text _ => "str"
  | .bytes _ => "bytes"
  | .date _ => "date"
  | .dateTime .. => "datetime"
  | .time _ => "time"
  | .list _ => "list"
  | .members _ => "set"
  | .mapping _ => "dict"

def ofText (text : String) : Value := .text text

def text? : Value → Option String
  | .text value => some value
  | _ => none

def entries? : Value → Option Entries
  | .mapping entries => some entries
  | _ => none

/-- Whether the value counts as nothing: null, false, zero, and what is empty. -/
def isVoid : Value → Bool
  | .null => true
  | .boolean value => !value
  | .integer value => value = 0
  | .real value => value.isZero
  | .text value => value.isEmpty
  | .bytes value => value.isEmpty
  | .date _ => false
  | .dateTime .. => false
  | .time _ => false
  | .list items => items.isEmpty
  | .members items => items.isEmpty
  | .mapping entries => entries.isEmpty

def arguments (numbers : List Int) : String :=
  ", ".intercalate (numbers.map ToString.toString)

/-- The parts of a time that are written: seconds and microseconds only where they matter. -/
def timeParts (moment : ClockTime) : List Int :=
  [(moment.hour : Int), moment.minute] ++
    (if moment.microsecond ≠ 0 then [(moment.second : Int), moment.microsecond]
     else if moment.second ≠ 0 then [(moment.second : Int)] else [])

def dateParts (day : Date) : List Int := [(day.year : Int), day.month, day.day]

/-- An offset as days and seconds, both written only where they matter. -/
def offsetText (minutes : Int) : String :=
  if minutes = 0 then "datetime.timezone.utc"
  else
    let days := Int.fdiv minutes 1440
    let seconds := Int.fmod minutes 1440 * 60
    let parts := (if days = 0 then [] else ["days=" ++ ToString.toString days]) ++
      (if seconds = 0 then [] else ["seconds=" ++ ToString.toString seconds])
    "datetime.timezone(datetime.timedelta(" ++ ", ".intercalate parts ++ "))"

def byteText (quote : Char) (byte : UInt8) : List Char :=
  let c := Char.ofNat byte.toNat
  if byte.toNat < 0x7f then Text.escapeChar quote c
  else '\\' :: 'x' :: Text.hexDigits 2 byte.toNat

def shown : Value → String
  | .null => "None"
  | .boolean value => if value then "True" else "False"
  | .integer value => ToString.toString value
  | .real value => value.text
  | .text value => Text.quoted value
  | .bytes value =>
    let quote := Text.quoteFor (value.map fun byte => Char.ofNat byte.toNat)
    "b" ++ String.ofList (quote :: value.flatMap (byteText quote) ++ [quote])
  | .date value => "datetime.date(" ++ arguments (dateParts value) ++ ")"
  | .dateTime day moment offset =>
    "datetime.datetime(" ++ arguments (dateParts day ++ timeParts moment) ++
      (match offset with
        | some minutes => ", tzinfo=" ++ offsetText minutes
        | none => "") ++ ")"
  | .time value => "datetime.time(" ++ arguments (timeParts value) ++ ")"
  | .list _ => "[...]"
  | .members _ => "\x7b...\x7d"
  | .mapping _ => "\x7b...\x7d"

/-- The number that a scalar stands for as a key: truth values count as one and zero. -/
def asInteger? : Value → Option Int
  | .boolean value => some (if value then 1 else 0)
  | .integer value => some value
  | .real (.finite negative size) =>
    let whole := size.round
    if size.exponent < 0 ∧ whole * Nat.pow 2 (-size.exponent).toNat ≠ size.mantissa then none
    else some (if negative then -(whole : Int) else whole)
  | _ => none

/-- Whether two scalars are one key of a mapping; numbers of all kinds compare by value. -/
def sameKey (first second : Value) : Bool :=
  match first.asInteger?, second.asInteger? with
  | some a, some b => a = b
  | none, none =>
    match first, second with
    | .null, .null => true
    | .real (.infinite a), .real (.infinite b) => a = b
    | .real (.finite a x), .real (.finite b y) => a = b && x = y
    | .text a, .text b => a = b
    | .bytes a, .bytes b => a = b
    | .date a, .date b => a = b
    | .dateTime a x p, .dateTime b y q => a = b && x = y && p = q
    | .time a, .time b => a = b
    | _, _ => false
  | _, _ => false

end Value

namespace Keyed

variable {α : Type}

def get? (key : Value) : Keyed α → Option α
  | [] => none
  | (other, value) :: rest => if other.sameKey key then some value else get? key rest

/-- Gives a key a value: where the key stands already, else at the end. -/
def put (key : Value) (value : α) : Keyed α → Keyed α
  | [] => [(key, value)]
  | (other, old) :: rest =>
    if other.sameKey key then (other, value) :: rest else (other, old) :: put key value rest

def merge (first second : Keyed α) : Keyed α :=
  second.foldl (fun entries entry => put entry.1 entry.2 entries) first

end Keyed

end PageRoutes.Document
