import PageRoutes.Document.Fault

/-! A place in a YAML text, with its line and column.

Lines end at line feeds and at the Unicode line boundaries that YAML knows. Behind the end
of the text stands a null character, which no text holds.
-/

set_option autoImplicit false

namespace PageRoutes.Document.Yaml

def isBreak (c : Char) : Bool := c = '\n' || c = '\u0085' || c = '\u2028' || c = '\u2029'

def isBlank (c : Char) : Bool := c = ' ' || c = '\t'

def endOfText : Char := '\x00'

def endsLine (c : Char) : Bool := c = endOfText || isBreak c

def endsWord (c : Char) : Bool := isBlank c || endsLine c

def isWordChar (c : Char) : Bool :=
  ('0' ≤ c && c ≤ '9') || ('A' ≤ c && c ≤ 'Z') || ('a' ≤ c && c ≤ 'z') || c = '-' || c = '_'

def byteOrderMark : Char := '\ufeff'

structure Cursor where
  rest : List Char
  index : Nat
  line : Nat
  column : Nat

namespace Cursor

def ofText (text : List Char) : Cursor := ⟨text, 0, 0, 0⟩

def peek (cursor : Cursor) (distance : Nat) : Char := (cursor.rest.drop distance).headD endOfText

def next (cursor : Cursor) : Cursor :=
  match cursor.rest with
  | [] => cursor
  | c :: rest =>
    if isBreak c then ⟨rest, cursor.index + 1, cursor.line + 1, 0⟩
    -- A byte order mark takes no room on its line.
    else if c = byteOrderMark then ⟨rest, cursor.index + 1, cursor.line, cursor.column⟩
    else ⟨rest, cursor.index + 1, cursor.line, cursor.column + 1⟩

def advance (cursor : Cursor) : Nat → Cursor
  | 0 => cursor
  | count + 1 => cursor.next.advance count

def takeUntil (cursor : Cursor) (stops : Char → Bool) : List Char × Cursor :=
  let taken := cursor.rest.takeWhile fun c => !stops c
  (taken, cursor.advance taken.length)

def skipWhile (cursor : Cursor) (skipped : Char → Bool) : Cursor :=
  (cursor.takeUntil fun c => !skipped c).2

def lineBreak (cursor : Cursor) : List Char × Cursor :=
  let c := cursor.peek 0
  if c = '\n' || c = '\u0085' then (['\n'], cursor.next)
  else if isBreak c then ([c], cursor.next)
  else ([], cursor)

/-- Three such characters at the start of a line, and then the end of a word. -/
def atMarker (cursor : Cursor) (c : Char) : Bool :=
  cursor.peek 0 = c && cursor.peek 1 = c && cursor.peek 2 = c && endsWord (cursor.peek 3)

def atSeparator (cursor : Cursor) : Bool := cursor.atMarker '-' || cursor.atMarker '.'

def skipRestOfLine (cursor : Cursor) : Except Fault Cursor :=
  let spaced := cursor.skipWhile (· = ' ')
  let commented := if spaced.peek 0 = '#' then (spaced.takeUntil endsLine).2 else spaced
  if endsLine (commented.peek 0) then .ok commented.lineBreak.2
  else .error (.malformed "expected a comment or a line break")

end Cursor

end PageRoutes.Document.Yaml
