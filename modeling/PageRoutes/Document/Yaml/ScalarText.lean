import PageRoutes.Document.Yaml.Cursor
import PageRoutes.Text.HexDigit

/-! The texts of YAML scalars: plain, quoted, and block.

Line breaks inside a scalar are folded: a single one is a space, and of several the first is
dropped. A block scalar keeps its breaks, or folds them between lines that do not start with
a blank, and its last breaks are kept as its header says.
-/

set_option autoImplicit false

namespace PageRoutes.Document.Yaml

namespace Plain

def endsAt (inFlow : Bool) (c following : Char) : Bool :=
  endsWord c ||
    (c = ':' && (endsWord following || (inFlow && ",[]\x7b\x7d".toList.contains following))) ||
    (inFlow && ",?[]\x7b\x7d".toList.contains c)

def chunk (inFlow : Bool) : List Char → List Char
  | [] => []
  | c :: rest => if endsAt inFlow c (rest.headD endOfText) then [] else c :: chunk inFlow rest

/-- Blank lines between two lines of a scalar; nothing in front of a document separator. -/
def breaks : Nat → Cursor → List Char → Option (List Char) × Cursor
  | 0, cursor, found => (some found, cursor)
  | fuel + 1, cursor, found =>
    if cursor.peek 0 = ' ' then breaks fuel cursor.next found
    else if isBreak (cursor.peek 0) then
      let (kept, behind) := cursor.lineBreak
      if behind.atSeparator then (none, behind) else breaks fuel behind (found ++ kept)
    else (some found, cursor)

/-- What stands between two runs: the text it folds to, the cursor behind it, and whether a
line has ended. -/
def gap (cursor : Cursor) : List Char × Cursor × Bool :=
  let (spaces, spaced) := cursor.takeUntil (· ≠ ' ')
  if isBreak (spaced.peek 0) then
    let (first, behind) := spaced.lineBreak
    if behind.atSeparator then ([], behind, true)
    else
      match breaks behind.rest.length behind [] with
      | (none, after) => ([], after, true)
      | (some others, after) =>
        ((if first ≠ ['\n'] then first else if others.isEmpty then [' '] else []) ++ others,
          after, true)
  else (spaces, spaced, false)

structure Result where
  text : List Char
  cursor : Cursor
  lineEnded : Bool

/-- Runs and gaps up to the end of the scalar; a line less indented than `indent` ends it. -/
def runs (inFlow : Bool) (indent : Int) :
    Nat → Cursor → List Char → List Char → Bool → Result
  | 0, cursor, _, text, ended => ⟨text, cursor, ended⟩
  | fuel + 1, cursor, spaces, text, ended =>
    let run := chunk inFlow cursor.rest
    if cursor.peek 0 = '#' || run.isEmpty then ⟨text, cursor, ended⟩
    else
      let (between, behind, lineEnded) := gap (cursor.advance run.length)
      let longer := text ++ spaces ++ run
      -- A blank in front of a number sign starts a comment, which ends the scalar.
      if between.isEmpty || behind.peek 0 = '#' || (!inFlow && (behind.column : Int) < indent) then
        ⟨longer, behind, lineEnded⟩
      else runs inFlow indent fuel behind between longer lineEnded

def scan (inFlow : Bool) (indent : Int) (cursor : Cursor) : Result :=
  runs inFlow indent (cursor.rest.length + 1) cursor [] [] false

end Plain

namespace Quoted

def replacement? : Char → Option Char
  | '0' => some '\x00'
  | 'a' => some '\x07'
  | 'b' => some '\x08'
  | 't' => some '\t'
  | '\t' => some '\t'
  | 'n' => some '\n'
  | 'v' => some '\x0b'
  | 'f' => some '\x0c'
  | 'r' => some '\r'
  | 'e' => some '\x1b'
  | ' ' => some ' '
  | '"' => some '"'
  | '\\' => some '\\'
  | '/' => some '/'
  | 'N' => some '\u0085'
  | '_' => some '\u00a0'
  | 'L' => some '\u2028'
  | 'P' => some '\u2029'
  | _ => none

def codeLength? : Char → Option Nat
  | 'x' => some 2
  | 'u' => some 4
  | 'U' => some 8
  | _ => none

def charOf (code : Nat) : Except Fault Char :=
  if 0x80000000 ≤ code then .error .tooLarge
  else if 0x10ffff < code then .error (.outOfRange "chr() arg not in range(0x110000)")
  else .ok (if code.isValidChar then Char.ofNat code else '\ufffd')

/-- Line breaks and the blanks in front of each line; a document separator is refused. -/
def breaks : Nat → Cursor → List Char → Except Fault (List Char × Cursor)
  | 0, cursor, found => .ok (found, cursor)
  | fuel + 1, cursor, found =>
    if cursor.atSeparator then .error (.malformed "found unexpected document separator")
    else
      let blank := cursor.skipWhile isBlank
      if isBreak (blank.peek 0) then
        let (kept, behind) := blank.lineBreak
        breaks fuel behind (found ++ kept)
      else .ok (found, blank)

def spaces (cursor : Cursor) : Except Fault (List Char × Cursor) :=
  let (blanks, behind) := cursor.takeUntil fun c => !isBlank c
  if behind.rest.isEmpty then .error (.malformed "found unexpected end of stream")
  else if isBreak (behind.peek 0) then do
    let (first, after) := behind.lineBreak
    let (others, cursor) ← breaks (after.rest.length + 1) after []
    return ((if first ≠ ['\n'] then first else if others.isEmpty then [' '] else []) ++ others,
      cursor)
  else .ok (blanks, behind)

def escape (cursor : Cursor) : Except Fault (List Char × Cursor) :=
  let c := cursor.peek 0
  match replacement? c with
  | some meant => .ok ([meant], cursor.next)
  | none =>
    match codeLength? c with
    | some length =>
      let digits := cursor.next.rest.take length
      match if digits.length = length then Text.hexNumber? digits else none with
      | some code => (charOf code).map fun meant => ([meant], cursor.next.advance length)
      | none => .error (.malformed "expected escape sequence of hexadecimal numbers")
    | none =>
      if isBreak c then
        let after := cursor.lineBreak.2
        breaks (after.rest.length + 1) after []
      else .error (.malformed "found unknown escape character")

def isOrdinary (c : Char) : Bool := !(c = '\'' || c = '"' || c = '\\' || endsWord c)

def word (double : Bool) : Nat → Cursor → List Char → Except Fault (List Char × Cursor)
  | 0, cursor, found => .ok (found, cursor)
  | fuel + 1, cursor, found =>
    let (plain, behind) := cursor.takeUntil fun c => !isOrdinary c
    let longer := found ++ plain
    let c := behind.peek 0
    if !double && c = '\'' && behind.peek 1 = '\'' then
      word double fuel (behind.advance 2) (longer ++ ['\''])
    else if (double && c = '\'') || (!double && (c = '"' || c = '\\')) then
      word double fuel behind.next (longer ++ [c])
    else if double && c = '\\' then do
      let (meant, after) ← escape behind.next
      word double fuel after (longer ++ meant)
    else .ok (longer, behind)

def body (double : Bool) : Nat → Cursor → List Char → Except Fault (List Char × Cursor)
  | 0, _, _ => .error (.malformed "found unexpected end of stream")
  | fuel + 1, cursor, found =>
    if cursor.peek 0 = (if double then '"' else '\'') then .ok (found, cursor.next)
    else do
      let (between, spaced) ← spaces cursor
      let (text, behind) ← word double (spaced.rest.length + 1) spaced []
      body double fuel behind (found ++ between ++ text)

def scan (double : Bool) (cursor : Cursor) : Except Fault (List Char × Cursor) := do
  let inside := cursor.next
  let (first, behind) ← word double (inside.rest.length + 1) inside []
  body double (behind.rest.length + 1) behind first

end Quoted

namespace Block

inductive Chomping where
  | clip
  | strip
  | keep
  deriving DecidableEq

def chomping? : Char → Option Chomping
  | '+' => some .keep
  | '-' => some .strip
  | _ => none

def increment (cursor : Cursor) : Except Fault (Option Nat × Cursor) :=
  let c := cursor.peek 0
  if c = '0' then .error (.malformed "expected indentation indicator in the range 1-9")
  else if '1' ≤ c && c ≤ '9' then .ok (some (c.toNat - 0x30), cursor.next)
  else .ok (none, cursor)

def header (cursor : Cursor) : Except Fault (Chomping × Option Nat × Cursor) := do
  let (chomping, indented, cursor) ← match chomping? (cursor.peek 0) with
    | some chomping => do
      let (indented, behind) ← increment cursor.next
      pure (chomping, indented, behind)
    | none => do
      let (indented, behind) ← increment cursor
      match indented.bind fun _ => chomping? (behind.peek 0) with
      | some chomping => pure (chomping, indented, behind.next)
      | none => pure (.clip, indented, behind)
  if cursor.peek 0 = ' ' || endsLine (cursor.peek 0) then return (chomping, indented, cursor)
  else throw (.malformed "expected chomping or indentation indicators")

/-- Blank lines in front of the first line, and the deepest indentation among them. -/
def findIndent : Nat → Cursor → List Char → Nat → List Char × Nat × Cursor
  | 0, cursor, breaks, deepest => (breaks, deepest, cursor)
  | fuel + 1, cursor, breaks, deepest =>
    if cursor.peek 0 = ' ' then
      findIndent fuel cursor.next breaks (Nat.max deepest cursor.next.column)
    else if isBreak (cursor.peek 0) then
      let (kept, behind) := cursor.lineBreak
      findIndent fuel behind (breaks ++ kept) deepest
    else (breaks, deepest, cursor)

def skipIndent (indent : Nat) (cursor : Cursor) : Cursor :=
  let spaces := (cursor.rest.takeWhile (· = ' ')).length
  cursor.advance (Nat.min spaces (indent - cursor.column))

def skipBreaks (indent : Nat) : Nat → Cursor → List Char → List Char × Cursor
  | 0, cursor, breaks => (breaks, cursor)
  | fuel + 1, cursor, breaks =>
    let indented := skipIndent indent cursor
    if isBreak (indented.peek 0) then
      let (kept, behind) := indented.lineBreak
      skipBreaks indent fuel behind (breaks ++ kept)
    else (breaks, indented)

structure Result where
  text : List Char
  lastBreak : List Char
  breaks : List Char
  cursor : Cursor

/-- The lines at an indentation; breaks between lines are folded where `folded` asks for it. -/
def lines (folded : Bool) (indent : Nat) :
    Nat → Cursor → List Char → List Char → List Char → Result
  | 0, cursor, breaks, lastBreak, text => ⟨text, lastBreak, breaks, cursor⟩
  | fuel + 1, cursor, breaks, lastBreak, text =>
    if cursor.column ≠ indent || cursor.rest.isEmpty then ⟨text, lastBreak, breaks, cursor⟩
    else
      -- A line that starts with a blank keeps the breaks in front of it and behind it.
      let startsBlank := isBlank (cursor.peek 0)
      let (line, behind) := cursor.takeUntil endsLine
      let longer := text ++ breaks ++ line
      let (kept, after) := behind.lineBreak
      let (others, following) := skipBreaks indent (after.rest.length + 1) after []
      if following.column = indent && !following.rest.isEmpty then
        let joined :=
          if folded && kept = ['\n'] && !startsBlank && !isBlank (following.peek 0) then
            if others.isEmpty then [' '] else []
          else kept
        lines folded indent fuel following others kept (longer ++ joined)
      else ⟨longer, kept, others, following⟩

/-- A block scalar, with the cursor at its indicator; `parent` is the indentation around it. -/
def scan (folded : Bool) (parent : Int) (cursor : Cursor) :
    Except Fault (List Char × Cursor) := do
  let (chomping, indented, behind) ← header cursor.next
  let first ← behind.skipRestOfLine
  let least := Nat.max 1 (parent + 1).toNat
  let (indent, breaks, start) := match indented with
    | none =>
      let (breaks, deepest, start) := findIndent first.rest.length first [] 0
      (Nat.max least deepest, breaks, start)
    | some increment =>
      let indent := least + increment - 1
      let (breaks, start) := skipBreaks indent (first.rest.length + 1) first []
      (indent, breaks, start)
  let result := lines folded indent (start.rest.length + 1) start breaks [] []
  return (result.text ++ (if chomping = .strip then [] else result.lastBreak) ++
    (if chomping = .keep then result.breaks else []), result.cursor)

end Block

end PageRoutes.Document.Yaml
