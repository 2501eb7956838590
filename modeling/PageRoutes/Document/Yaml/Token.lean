import PageRoutes.Document.Numeral
import PageRoutes.Document.Yaml.ScalarText

/-! The tokens of a YAML text.

Block structure is made explicit: a deeper indentation opens a sequence or a mapping, a
smaller one closes it. A token that may turn out to be a key is remembered as a candidate;
when a colon follows on the same line, the key token is put in front of it. So a token is
settled only when nothing can be put in front of it any more; where a text cannot be read on,
the settled tokens are all that is known of it.
-/

set_option autoImplicit false

namespace PageRoutes.Document.Yaml

inductive Directive where
  | version (major minor : Nat)
  | tagHandle (handle start : List Char)
  | other
  deriving DecidableEq

inductive Token where
  | directive (content : Directive)
  | documentStart
  | documentEnd
  | streamEnd
  | blockSequenceStart
  | blockMappingStart
  | blockEnd
  | flowSequenceStart
  | flowSequenceEnd
  | flowMappingStart
  | flowMappingEnd
  | blockEntry
  | flowEntry
  | key
  | value
  | alias (name : List Char)
  | anchor (name : List Char)
  | tag (handle : Option (List Char)) (suffix : List Char)
  | scalar (plain : Bool) (text : List Char)
  deriving DecidableEq

namespace Token

structure Candidate where
  /-- How many tokens stand in front of it. -/
  position : Nat
  required : Bool
  index : Nat
  line : Nat
  column : Nat

structure State where
  cursor : Cursor
  /-- The tokens so far, the newest first. -/
  newestFirst : List Token
  flowLevel : Nat
  /-- The column of the innermost open block collection. -/
  indent : Int
  outerIndents : List Int
  keyAllowed : Bool
  candidates : List (Nat × Candidate)

namespace State

def start (text : List Char) : State := ⟨Cursor.ofText text, [], 0, -1, [], true, []⟩

def inFlow (state : State) : Bool := state.flowLevel ≠ 0

def push (state : State) (token : Token) : State :=
  { state with newestFirst := token :: state.newestFirst }

def advance (state : State) (count : Nat) : State :=
  { state with cursor := state.cursor.advance count }

/-- A key has to end on its line and within so many characters. -/
def longestKey : Nat := 1024

def isStale (cursor : Cursor) (candidate : Candidate) : Bool :=
  candidate.line ≠ cursor.line || longestKey < cursor.index - candidate.index

/-- Forgets the candidates that can be no key any more; a required one is missed. -/
def dropStale (state : State) : Except Fault State :=
  let (stale, fresh) := state.candidates.partition fun entry => isStale state.cursor entry.2
  if stale.any fun entry => entry.2.required then
    .error (.malformed "could not find expected ':'")
  else .ok { state with candidates := fresh }

def dropCandidate (state : State) : Except Fault State :=
  match state.candidates.lookup state.flowLevel with
  | some candidate =>
    if candidate.required then .error (.malformed "could not find expected ':'")
    else .ok { state with
      candidates := state.candidates.filter fun entry => entry.1 ≠ state.flowLevel }
  | none => .ok state

def saveCandidate (state : State) : Except Fault State :=
  if state.keyAllowed then do
    let cleared ← state.dropCandidate
    let candidate : Candidate :=
      ⟨state.newestFirst.length, !state.inFlow && state.indent = state.cursor.column,
        state.cursor.index, state.cursor.line, state.cursor.column⟩
    return { cleared with candidates := (state.flowLevel, candidate) :: cleared.candidates }
  else .ok state

/-- Closes the block collections that are indented more than a column. -/
def unwindTo (column : Int) : List Int → State → State
  | [], state => state
  | outer :: rest, state =>
    if state.indent > column then
      unwindTo column rest { state.push .blockEnd with indent := outer, outerIndents := rest }
    else state

def unwind (column : Int) (state : State) : State :=
  if state.inFlow then state else unwindTo column state.outerIndents state

def deepen (state : State) (column : Nat) : Option State :=
  if state.indent < column then
    some { state with indent := column, outerIndents := state.indent :: state.outerIndents }
  else none

def deepenWith (state : State) (column : Nat) (opening : Token) : State :=
  match state.deepen column with
  | some deeper => deeper.push opening
  | none => state

def insert (state : State) (position : Nat) (token : Token) : State :=
  { state with
    newestFirst := state.newestFirst.insertIdx (state.newestFirst.length - position) token }

def skipToToken : Nat → State → State
  | 0, state => state
  | fuel + 1, state =>
    let spaced := state.cursor.skipWhile (· = ' ')
    let commented := if spaced.peek 0 = '#' then (spaced.takeUntil endsLine).2 else spaced
    if isBreak (commented.peek 0) then
      skipToToken fuel
        { state with
          cursor := commented.lineBreak.2
          keyAllowed := state.keyAllowed || !state.inFlow }
    else { state with cursor := commented }

def skipMark (state : State) : State :=
  if state.cursor.index = 0 && state.cursor.peek 0 = byteOrderMark then state.advance 1 else state

def closeBlocks (state : State) : Except Fault State := do
  let cleared ← (state.unwind (-1)).dropCandidate
  return { cleared with keyAllowed := false }

def indicator (state : State) (token : Token) : State := (state.advance 1).push token

def flowStart (state : State) (token : Token) : Except Fault State := do
  let saved ← state.saveCandidate
  return { saved with flowLevel := saved.flowLevel + 1, keyAllowed := true }.indicator token

def flowEnd (state : State) (token : Token) : Except Fault State := do
  let cleared ← state.dropCandidate
  return { cleared with flowLevel := cleared.flowLevel - 1, keyAllowed := false }.indicator token

def flowEntry (state : State) : Except Fault State := do
  let cleared ← state.dropCandidate
  return { cleared with keyAllowed := true }.indicator .flowEntry

def blockEntry (state : State) : Except Fault State := do
  if !state.inFlow && !state.keyAllowed then
    throw (.malformed "sequence entries are not allowed here")
  let opened :=
    if state.inFlow then state else state.deepenWith state.cursor.column .blockSequenceStart
  let cleared ← opened.dropCandidate
  return { cleared with keyAllowed := true }.indicator .blockEntry

def explicitKey (state : State) : Except Fault State := do
  if !state.inFlow && !state.keyAllowed then
    throw (.malformed "mapping keys are not allowed here")
  let opened :=
    if state.inFlow then state else state.deepenWith state.cursor.column .blockMappingStart
  let cleared ← opened.dropCandidate
  return { cleared with keyAllowed := !state.inFlow }.indicator .key

/-- A colon turns the candidate of its flow level into a key; without one it starts a value. -/
def mappingValue (state : State) : Except Fault State :=
  match state.candidates.lookup state.flowLevel with
  | some candidate =>
    -- The key goes in front of what has been read meanwhile, and a mapping that opens with it
    -- goes in front of the key.
    let keyed := { state with
      candidates := state.candidates.filter fun entry => entry.1 ≠ state.flowLevel
      keyAllowed := false }.insert candidate.position .key
    let opened :=
      if state.inFlow then keyed
      else
        match keyed.deepen candidate.column with
        | some deeper => deeper.insert candidate.position .blockMappingStart
        | none => keyed
    .ok (opened.indicator .value)
  | none => do
    if !state.inFlow && !state.keyAllowed then
      throw (.malformed "mapping values are not allowed here")
    let opened :=
      if state.inFlow then state else state.deepenWith state.cursor.column .blockMappingStart
    let cleared ← { opened with keyAllowed := !state.inFlow }.dropCandidate
    return cleared.indicator .value

def anchorName (cursor : Cursor) : Except Fault (List Char × Cursor) :=
  let (name, behind) := cursor.next.takeUntil fun c => !isWordChar c
  if name.isEmpty then .error (.malformed "expected alphabetic or numeric character")
  else if endsWord (behind.peek 0) || "?:,]\x7d%@\x60".toList.contains (behind.peek 0) then
    .ok (name, behind)
  else .error (.malformed "expected alphabetic or numeric character")

def possibleKey (state : State)
    (scan : Cursor → Except Fault (Token × Cursor)) : Except Fault State := do
  let saved ← state.saveCandidate
  let (token, behind) ← scan saved.cursor
  return { saved with cursor := behind, keyAllowed := false }.push token

def hexByte? (digits : List Char) : Option UInt8 :=
  if digits.length = 2 then (Text.hexNumber? digits).map UInt8.ofNat else none

def uriEscapes : Nat → List Char → List UInt8 → Except Fault (List UInt8 × List Char)
  | 0, rest, bytes => .ok (bytes, rest)
  | fuel + 1, rest, bytes =>
    match rest with
    | '%' :: more =>
      match hexByte? (more.take 2) with
      | some byte => uriEscapes fuel (more.drop 2) (bytes ++ [byte])
      | none => .error (.malformed "expected URI escape sequence of 2 hexadecimal numbers")
    | _ => .ok (bytes, rest)

def isUriChar (c : Char) : Bool :=
  isWordChar c || "-;/?:@&=+$,_.!~*'()[]%".toList.contains c

def uriText : Nat → List Char → Except Fault (List Char)
  | 0, _ => .ok []
  | fuel + 1, text =>
    match text with
    | [] => .ok []
    | '%' :: _ => do
      let (bytes, rest) ← uriEscapes text.length text []
      match String.fromUTF8? (ByteArray.mk bytes.toArray) with
      | some decoded => return decoded.toList ++ (← uriText fuel rest)
      | none => throw (.malformed "invalid bytes in a URI")
    | c :: rest => do return c :: (← uriText fuel rest)

def uri (cursor : Cursor) : Except Fault (List Char × Cursor) := do
  let (raw, behind) := cursor.takeUntil fun c => !isUriChar c
  if raw.isEmpty then throw (.malformed "expected URI")
  return (← uriText raw.length raw, behind)

def tagHandle (cursor : Cursor) : Except Fault (List Char × Cursor) :=
  if cursor.peek 0 ≠ '!' then .error (.malformed "expected '!'")
  else if cursor.peek 1 = ' ' then .ok (['!'], cursor.next)
  else
    let (word, behind) := cursor.next.takeUntil fun c => !isWordChar c
    if behind.peek 0 = '!' then .ok ('!' :: word ++ ['!'], behind.next)
    else .error (.malformed "expected '!'")

/-- A tag: verbatim in angle brackets, a lone mark, or a handle with a suffix. -/
def scanTag (cursor : Cursor) : Except Fault (Token × Cursor) := do
  let (token, behind) ←
    if cursor.peek 1 = '<' then do
      let (suffix, behind) ← uri (cursor.advance 2)
      if behind.peek 0 ≠ '>' then throw (.malformed "expected '>'")
      pure (Token.tag none suffix, behind.next)
    else if endsWord (cursor.peek 1) then pure (Token.tag none ['!'], cursor.next)
    else do
      let word := cursor.next.rest.takeWhile fun c => !(c = ' ' || endsLine c)
      let (handle, behind) ←
        if word.contains '!' then tagHandle cursor else pure (['!'], cursor.next)
      let (suffix, behind) ← uri behind
      pure (Token.tag (some handle) suffix, behind)
  if behind.peek 0 = ' ' || endsLine (behind.peek 0) then return (token, behind)
  else throw (.malformed "expected ' '")

def versionNumber (cursor : Cursor) : Except Fault (Nat × Cursor) :=
  let (digits, behind) := cursor.takeUntil fun c => !c.isDigit
  if digits.isEmpty then .error (.malformed "expected a digit")
  else if Numeral.mostDigits < digits.length then .error (Numeral.tooManyDigits digits.length)
  else .ok (digits.foldl (fun total c => 10 * total + (c.toNat - 0x30)) 0, behind)

def versionDirective (cursor : Cursor) : Except Fault (Directive × Cursor) := do
  let (major, behind) ← versionNumber (cursor.skipWhile (· = ' '))
  if behind.peek 0 ≠ '.' then throw (.malformed "expected a digit or '.'")
  let (minor, after) ← versionNumber behind.next
  if after.peek 0 = ' ' || endsLine (after.peek 0) then return (.version major minor, after)
  else throw (.malformed "expected a digit or ' '")

def handleDirective (cursor : Cursor) : Except Fault (Directive × Cursor) := do
  let (handle, behind) ← tagHandle (cursor.skipWhile (· = ' '))
  if behind.peek 0 ≠ ' ' then throw (.malformed "expected ' '")
  let (start, after) ← uri (behind.skipWhile (· = ' '))
  if after.peek 0 = ' ' || endsLine (after.peek 0) then return (.tagHandle handle start, after)
  else throw (.malformed "expected ' '")

def directive (state : State) : Except Fault State := do
  let closed ← state.closeBlocks
  let (name, behind) := closed.cursor.next.takeUntil fun c => !isWordChar c
  if name.isEmpty || !(behind.peek 0 = ' ' || endsLine (behind.peek 0)) then
    throw (.malformed "expected alphabetic or numeric character")
  let (content, after) ←
    if name = "YAML".toList then versionDirective behind
    else if name = "TAG".toList then handleDirective behind
    else pure (Directive.other, (behind.takeUntil endsLine).2)
  let cursor ← after.skipRestOfLine
  return { closed with cursor }.push (.directive content)

def blockScalar (state : State) (folded : Bool) : Except Fault State := do
  let cleared ← { state with keyAllowed := true }.dropCandidate
  let (text, behind) ← Block.scan folded state.indent state.cursor
  return { cleared with cursor := behind }.push (.scalar false text)

def quotedScalar (state : State) (double : Bool) : Except Fault State :=
  state.possibleKey fun cursor =>
    (Quoted.scan double cursor).map fun (text, behind) => (.scalar false text, behind)

def plainScalar (state : State) : Except Fault State := do
  let saved ← state.saveCandidate
  let result := Plain.scan state.inFlow (state.indent + 1) saved.cursor
  return { saved with cursor := result.cursor, keyAllowed := result.lineEnded }.push
    (.scalar true result.text)

def startsPlain (inFlow : Bool) (c following : Char) : Bool :=
  !(endsWord c || "-?:,[]\x7b\x7d#&*!|>'\"%@\x60".toList.contains c) ||
    (!endsWord following && (c = '-' || (!inFlow && (c = '?' || c = ':'))))

def step (state : State) : Except Fault (Option State) := do
  let skipped := skipToToken (state.cursor.rest.length + 1) state.skipMark
  let fresh ← skipped.dropStale
  let state := fresh.unwind fresh.cursor.column
  let cursor := state.cursor
  let c := cursor.peek 0
  let flow := state.inFlow
  if cursor.rest.isEmpty then return none
  -- Directives and document markers are such at the start of a line only; elsewhere the same
  -- characters belong to scalars or start nothing.
  else if c = '%' && cursor.column = 0 then return some (← state.directive)
  else if cursor.column = 0 && cursor.atMarker '-' then
    return some (((← state.closeBlocks).advance 3).push .documentStart)
  else if cursor.column = 0 && cursor.atMarker '.' then
    return some (((← state.closeBlocks).advance 3).push .documentEnd)
  else if c = '[' then return some (← state.flowStart .flowSequenceStart)
  else if c = '\x7b' then return some (← state.flowStart .flowMappingStart)
  else if c = ']' then return some (← state.flowEnd .flowSequenceEnd)
  else if c = '\x7d' then return some (← state.flowEnd .flowMappingEnd)
  else if c = ',' then return some (← state.flowEntry)
  else if c = '-' && endsWord (cursor.peek 1) then return some (← state.blockEntry)
  else if c = '?' && (flow || endsWord (cursor.peek 1)) then return some (← state.explicitKey)
  else if c = ':' && (flow || endsWord (cursor.peek 1)) then return some (← state.mappingValue)
  else if c = '*' then
    return some (← state.possibleKey fun cursor =>
      (anchorName cursor).map fun (name, behind) => (.alias name, behind))
  else if c = '&' then
    return some (← state.possibleKey fun cursor =>
      (anchorName cursor).map fun (name, behind) => (.anchor name, behind))
  else if c = '!' then return some (← state.possibleKey scanTag)
  else if c = '|' && !flow then return some (← state.blockScalar false)
  else if c = '>' && !flow then return some (← state.blockScalar true)
  else if c = '\'' then return some (← state.quotedScalar false)
  else if c = '"' then return some (← state.quotedScalar true)
  else if startsPlain flow c (cursor.peek 1) then return some (← state.plainScalar)
  else throw (.malformed "found character that cannot start any token")

def finish (state : State) : Except Fault State := do
  -- A required key that never got its colon is missed here at the latest.
  let skipped ← (skipToToken (state.cursor.rest.length + 1) state.skipMark).dropStale
  return (← skipped.closeBlocks).push .streamEnd

/-- The tokens in front of the first one that may still turn out to be a key. -/
def settled (state : State) : List Token :=
  let positions := state.candidates.filterMap fun (_, candidate) =>
    if isStale state.cursor candidate then none else some candidate.position
  state.newestFirst.reverse.take (positions.foldl Nat.min state.newestFirst.length)

end State

/-- The settled tokens of a text, and why it cannot be read on, if it cannot. -/
structure Scanned where
  tokens : List Token
  fault : Option Fault

def scanFrom : Nat → State → Scanned
  | 0, state => ⟨state.settled, none⟩
  | fuel + 1, state =>
    match state.step with
    | .error fault => ⟨state.settled, some fault⟩
    | .ok (some after) => scanFrom fuel after
    | .ok none =>
      match state.finish with
      | .error fault => ⟨state.settled, some fault⟩
      | .ok final => ⟨final.newestFirst.reverse, none⟩

def isAllowed (c : Char) : Bool :=
  c = '\t' || c = '\n' || c = '\r' || (' ' ≤ c && c ≤ '~') || c = '\u0085' ||
    ('\u00a0' ≤ c && c ≠ '\ufffe' && c ≠ '\uffff')

def scan (text : List Char) : Scanned :=
  if text.all isAllowed then scanFrom (text.length + 1) (State.start text)
  else ⟨[], some (.malformed "special characters are not allowed")⟩

end Token

end PageRoutes.Document.Yaml
