import PageRoutes.Document.Calendar
import PageRoutes.Document.Fault
import PageRoutes.Document.Numeral

/-! The scalars of TOML: strings of four kinds, numbers, dates and times.

Each reader takes a scalar off the front of a text and answers what comes after it.
-/

set_option autoImplicit false

namespace PageRoutes.Document.Toml

def refuse {α : Type} (reason : String) : Except Fault α := .error (.malformed reason)

def isSpace (c : Char) : Bool := c = ' ' || c = '\t'

def isSpaceOrNewline (c : Char) : Bool := isSpace c || c = '\n'

/-- Control characters, of which no text holds any but the tab. -/
def isControl (c : Char) : Bool := (c.toNat < 0x20 && c ≠ '\t') || c = '\x7f'

def isBareKeyChar (c : Char) : Bool :=
  ('0' ≤ c && c ≤ '9') || ('A' ≤ c && c ≤ 'Z') || ('a' ≤ c && c ≤ 'z') || c = '-' || c = '_'

def behind? (opening : String) (text : List Char) : Option (List Char) :=
  if opening.toList.isPrefixOf text then some (text.drop opening.length) else none

def skipComment : List Char → Except Fault (List Char)
  | '#' :: rest =>
    if (rest.takeWhile (· ≠ '\n')).any isControl then refuse "invalid character in a comment"
    else .ok (rest.dropWhile (· ≠ '\n'))
  | text => .ok text

def skipBlankLines : Nat → List Char → Except Fault (List Char)
  | 0, text => .ok text
  | fuel + 1, text => do
    let behind ← skipComment (text.dropWhile isSpaceOrNewline)
    if behind.length = text.length then return behind else skipBlankLines fuel behind

/-- The character with a number in so many hexadecimal digits, in front of the rest of a text. -/
def charOfCode (digits : List Char) (length : Nat) (rest : List Char) :
    Except Fault (List Char × List Char) :=
  match if digits.length = length then Numeral.natural? 16 digits else none with
  | some code =>
    if code.isValidChar then .ok ([Char.ofNat code], rest)
    else refuse "escaped character is not a Unicode scalar value"
  | none => refuse "invalid hex value"

/-- An escape behind its backslash. In strings of several lines a backslash in front of the end
of a line swallows all blanks and line breaks after it. -/
def escape (multiline : Bool) : List Char → Except Fault (List Char × List Char)
  | [] => refuse "unescaped backslash in a string"
  | c :: rest =>
    if multiline && isSpaceOrNewline c then
      match (c :: rest).dropWhile isSpace with
      | '\n' :: after => .ok ([], after.dropWhile isSpaceOrNewline)
      | [] => .ok ([], [])
      | _ => refuse "unescaped backslash in a string"
    else
      match c with
      | 'u' => charOfCode (rest.take 4) 4 (rest.drop 4)
      | 'U' => charOfCode (rest.take 8) 8 (rest.drop 8)
      | 'b' => .ok (['\x08'], rest)
      | 't' => .ok (['\t'], rest)
      | 'n' => .ok (['\n'], rest)
      | 'f' => .ok (['\x0c'], rest)
      | 'r' => .ok (['\r'], rest)
      | '"' => .ok (['"'], rest)
      | '\\' => .ok (['\\'], rest)
      | _ => refuse "unescaped backslash in a string"

def basicBody (multiline : Bool) :
    Nat → List Char → List Char → Except Fault (List Char × List Char)
  | 0, _, _ => refuse "unterminated string"
  | fuel + 1, text, found =>
    match text with
    | [] => refuse "unterminated string"
    | '"' :: rest =>
      if multiline then
        match rest with
        | '"' :: '"' :: after => .ok (found, after)
        | _ => basicBody multiline fuel rest (found ++ ['"'])
      else .ok (found, rest)
    | '\\' :: rest => do
      let (meant, after) ← escape multiline rest
      basicBody multiline fuel after (found ++ meant)
    | c :: rest =>
      if isControl c && !(multiline && c = '\n') then refuse "illegal character in a string"
      else basicBody multiline fuel rest (found ++ [c])

def literalBody (text : List Char) : Except Fault (List Char × List Char) :=
  let body := text.takeWhile (· ≠ '\'')
  match text.dropWhile (· ≠ '\'') with
  | [] => refuse "unterminated string"
  | _ :: rest => if body.any isControl then refuse "invalid character" else .ok (body, rest)

def longLiteralBody : List Char → List Char → Except Fault (List Char × List Char)
  | '\'' :: '\'' :: '\'' :: rest, found => .ok (found, rest)
  | c :: rest, found =>
    if isControl c && c ≠ '\n' then refuse "invalid character"
    else longLiteralBody rest (found ++ [c])
  | [], _ => refuse "unterminated string"

/-- Up to two quotes may stand in front of a closing of three. -/
def extraQuotes (quote : Char) : List Char × List Char → List Char × List Char
  | (found, text) =>
    let extra := ((text.take 2).takeWhile (· = quote)).length
    (found ++ List.replicate extra quote, text.drop extra)

def dropFirstBreak : List Char → List Char
  | '\n' :: rest => rest
  | text => text

def string? (text : List Char) : Option (Except Fault (List Char × List Char)) :=
  match text with
  | '"' :: '"' :: '"' :: rest =>
    some ((basicBody true (text.length + 1) (dropFirstBreak rest) []).map (extraQuotes '"'))
  | '"' :: rest => some (basicBody false (text.length + 1) rest [])
  | '\'' :: '\'' :: '\'' :: rest =>
    some ((longLiteralBody (dropFirstBreak rest) []).map (extraQuotes '\''))
  | '\'' :: rest => some (literalBody rest)
  | _ => none

def fixedNumber? (count : Nat) (text : List Char) : Option (Nat × List Char) :=
  let digits := text.take count
  if digits.length = count then
    (Numeral.natural? 10 digits).map fun number => (number, text.drop count)
  else none

def char? (c : Char) : List Char → Option (List Char)
  | d :: rest => if c = d then some rest else none
  | [] => none

def clock? (text : List Char) : Option (ClockTime × List Char) := do
  let (hour, rest) ← fixedNumber? 2 text
  let (minute, rest) ← fixedNumber? 2 (← char? ':' rest)
  let (second, rest) ← fixedNumber? 2 (← char? ':' rest)
  if 23 < hour || 59 < minute || 59 < second then none
  else
    match rest with
    | '.' :: more =>
      let digits := more.takeWhile Char.isDigit
      if digits.isEmpty then some (⟨hour, minute, second, 0⟩, rest)
      else some (⟨hour, minute, second, Calendar.microseconds digits⟩, more.drop digits.length)
    | _ => some (⟨hour, minute, second, 0⟩, rest)

/-- An offset from the universal time in minutes. -/
def offset? : List Char → Option (Int × List Char)
  | sign :: rest =>
    if sign = 'Z' || sign = 'z' then some (0, rest)
    else if sign = '+' || sign = '-' then do
      let (hours, rest) ← fixedNumber? 2 rest
      let (minutes, rest) ← fixedNumber? 2 (← char? ':' rest)
      if 23 < hours || 59 < minutes then none
      else some (Numeral.integerOf (sign = '-') (hours * 60 + minutes), rest)
    else none
  | [] => none

def dateNumbers? (text : List Char) : Option ((Nat × Nat × Nat) × List Char) := do
  let (year, rest) ← fixedNumber? 4 text
  let (month, rest) ← fixedNumber? 2 (← char? '-' rest)
  let (day, rest) ← fixedNumber? 2 (← char? '-' rest)
  if month = 0 || 12 < month || day = 0 || 31 < day then none
  else some ((year, month, day), rest)

def date? (text : List Char) : Option (Except Fault (Value × List Char)) := do
  let ((year, month, day), rest) ← dateNumbers? text
  some <|
    match Calendar.date year month day with
    | .error _ => refuse "invalid date or datetime"
    | .ok found =>
      -- A blank between date and time counts only if there is a time behind it.
      let timed := match rest with
        | c :: more => if c = 'T' || c = 't' || c = ' ' then clock? more else none
        | [] => none
      match timed with
      | none => .ok (.date found, rest)
      | some (time, after) =>
        match offset? after with
        | some (offset, behind) => .ok (.dateTime found time (some offset), behind)
        | none => .ok (.dateTime found time none, after)

def spacedDigits (base : Nat) : List Char → List Char × List Char
  | '_' :: c :: rest =>
    if (Numeral.digitValue? base c).isSome then
      let (digits, behind) := spacedDigits base rest
      (c :: digits, behind)
    else ([], '_' :: c :: rest)
  | c :: rest =>
    if (Numeral.digitValue? base c).isSome then
      let (digits, behind) := spacedDigits base rest
      (c :: digits, behind)
    else ([], c :: rest)
  | [] => ([], [])

def digits? (base : Nat) (text : List Char) : Option (List Char × List Char) :=
  match text with
  | c :: _ => if (Numeral.digitValue? base c).isSome then some (spacedDigits base text) else none
  | [] => none

def basedInteger? (opening : String) (base : Nat) (text : List Char) :
    Option (Value × List Char) := do
  let (digits, rest) ← digits? base (← behind? opening text)
  (Numeral.natural? base digits).map fun size => (.integer size, rest)

/-- The whole part of a decimal: a zero alone, or digits that do not start with one. -/
def wholePart? : List Char → Option (List Char × List Char)
  | '0' :: rest => some (['0'], rest)
  | text => digits? 10 text

def fraction (text : List Char) : List Char × List Char :=
  match char? '.' text >>= digits? 10 with
  | some found => found
  | none => ([], text)

def exponent? : List Char → Option (Int × List Char)
  | c :: rest =>
    if c = 'e' || c = 'E' then do
      let (negative, unsigned) := Numeral.signed rest
      let (digits, behind) ← digits? 10 unsigned
      (Numeral.natural? 10 digits).map fun size => (Numeral.integerOf negative size, behind)
    else none
  | [] => none

def decimal? (text : List Char) : Option (Except Fault (Value × List Char)) := do
  let (negative, unsigned) := Numeral.signed text
  let (whole, rest) ← wholePart? unsigned
  let (places, behind) := fraction rest
  let scaled := exponent? behind
  if places.isEmpty && scaled.isNone then
    some (Numeral.decimalInteger negative whole |>.map fun value => (value, rest))
  else
    let (exponent, after) := scaled.getD (0, behind)
    (Numeral.natural? 10 (whole ++ places)).map fun digits =>
      .ok (.real (Numeral.real negative digits (exponent - places.length)), after)

def special? (text : List Char) : Option (Value × List Char) :=
  let (negative, unsigned) := Numeral.signed text
  match behind? "inf" unsigned, behind? "nan" unsigned with
  | some rest, _ => some (.real (.infinite negative), rest)
  | _, some rest => some (.real .notNumber, rest)
  | none, none => none

def plain (text : List Char) : Except Fault (Value × List Char) :=
  match date? text with
  | some taken => taken
  | none =>
    match clock? text with
    | some (time, rest) => .ok (.time time, rest)
    | none =>
      match basedInteger? "0x" 16 text <|> basedInteger? "0b" 2 text <|>
          basedInteger? "0o" 8 text with
      | some found => .ok found
      | none =>
        match decimal? text with
        | some taken => taken
        | none =>
          match special? text with
          | some found => .ok found
          | none => refuse "invalid value"

end PageRoutes.Document.Toml
