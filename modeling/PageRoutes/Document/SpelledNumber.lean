import PageRoutes.Document.Numeral
import PageRoutes.Text.Blank
import PageRoutes.Text.DecimalDigit

/-! Numbers in the spelling that a text may have which asks to be one.

Blanks around the number do not matter, its digits may be those of any script, and one sign
may stand in front. An integer in base two, eight or sixteen may carry the mark of its base,
and a real may be spelled as a word.
-/

set_option autoImplicit false

namespace PageRoutes.Document.SpelledNumber

/-- A character as far as numbers go: digits of all scripts and blanks beyond ASCII become the
ASCII ones, and what is neither stays what it is. -/
def plainChar (c : Char) : Char :=
  if c.toNat < 0x7f then c
  else if Text.isBlank c then ' '
  else
    match Text.digitValue? c with
    | some digit => Char.ofNat (0x30 + digit)
    | none => c

def isEdgeBlank (c : Char) : Bool := c = ' ' || ('\t' ≤ c && c ≤ '\r')

def trimmed (text : List Char) : List Char :=
  ((text.dropWhile isEdgeBlank).reverse.dropWhile isEdgeBlank).reverse

def baseLetter? : Nat → Option Char
  | 2 => some 'b'
  | 8 => some 'o'
  | 16 => some 'x'
  | _ => none

def withoutMark (base : Nat) (text : List Char) : List Char :=
  match text with
  | '0' :: letter :: rest => if baseLetter? base = some letter.toLower then rest else text
  | _ => text

def shownLength : Nat := 200

def noInteger (base : Nat) (text : List Char) : Fault :=
  .outOfRange ("invalid literal for int() with base " ++ ToString.toString base ++ ": " ++
    String.ofList ((Text.quoted (String.ofList text)).toList.take shownLength))

/-- An integer in a base. Too many decimal digits are noticed before anything wrong behind
them. -/
def integer (base : Nat) (text : List Char) : Except Fault Int :=
  let (negative, unsigned) := Numeral.signed (trimmed (text.map plainChar))
  let unmarked := withoutMark base unsigned
  let digits := unmarked.takeWhile fun c => (Numeral.digitValue? base c).isSome
  if base = 10 ∧ Numeral.mostDigits < digits.length then
    .error (Numeral.tooManyDigits digits.length)
  else
    match Numeral.natural? base unmarked with
    | some size => .ok (Numeral.integerOf negative size)
    | none => .error (noInteger base text)

def noReal (text : List Char) : Fault :=
  .outOfRange ("could not convert string to float: " ++ Text.quoted (String.ofList text))

/-- A real in decimal digits, or one of the words for what has no digits. -/
def real (text : List Char) : Except Fault Number.Real :=
  let (negative, size) := Numeral.signed (trimmed (text.map plainChar))
  let word := String.ofList (size.map Char.toLower)
  if word = "inf" || word = "infinity" then .ok (.infinite negative)
  else if word = "nan" then .ok .notNumber
  else
    match Numeral.decimal? negative size with
    | some value => .ok value
    | none => .error (noReal text)

end PageRoutes.Document.SpelledNumber
