import PageRoutes.Document.Toml.Scalar
import PageRoutes.Document.Toml.Table

/-! TOML documents: key and value pairs, line by line, under the headers of tables. -/

set_option autoImplicit false

namespace PageRoutes.Document.Toml

def keyPart (text : List Char) : Except Fault (String × List Char) :=
  match text with
  | c :: rest =>
    if isBareKeyChar c then
      .ok (String.ofList (text.takeWhile isBareKeyChar), text.dropWhile isBareKeyChar)
    else if c = '"' then
      (basicBody false (text.length + 1) rest []).map fun (part, after) =>
        (String.ofList part, after)
    else if c = '\'' then
      (literalBody rest).map fun (part, after) => (String.ofList part, after)
    else refuse "invalid initial character for a key part"
  | [] => refuse "invalid initial character for a key part"

def keyParts : Nat → List Char → Except Fault (KeyPath × List Char)
  | 0, _ => refuse "invalid key"
  | fuel + 1, text => do
    let (part, behind) ← keyPart text
    match behind.dropWhile isSpace with
    | '.' :: rest => do
      let (others, after) ← keyParts fuel (rest.dropWhile isSpace)
      return (part :: others, after)
    | rest => return ([part], rest)

def key (text : List Char) : Except Fault (KeyPath × List Char) := keyParts (text.length + 1) text

def equals (text : List Char) : Except Fault (List Char) :=
  match text with
  | '=' :: rest => .ok (rest.dropWhile isSpace)
  | _ => refuse "expected '=' after a key"

def splitLast (path : KeyPath) : KeyPath × String := (path.dropLast, path.getLast?.getD "")

def isCollection : Value → Bool
  | .list _ => true
  | .mapping _ => true
  | _ => false

mutual

def value : Nat → List Char → Except Fault (Value × List Char)
  | 0, _ => refuse "nested too deeply"
  | fuel + 1, text =>
    match string? text with
    | some taken => taken.map fun (found, rest) => (.text (String.ofList found), rest)
    | none =>
      match behind? "true" text, behind? "false" text, text with
      | some rest, _, _ => .ok (.boolean true, rest)
      | _, some rest, _ => .ok (.boolean false, rest)
      | _, _, '[' :: rest => do
        let (items, after) ← arrayItems fuel (← skipBlankLines (rest.length + 1) rest)
        return (.list items, after)
      | _, _, '\x7b' :: rest => do
        match rest.dropWhile isSpace with
        | '\x7d' :: after => return (.mapping [], after)
        | inside => do
          let (entries, after) ← inlineEntries fuel inside [] Marks.none
          return (.mapping entries, after)
      | _, _, _ => plain text

/-- The items of an array up to its closing bracket; a comma may stand behind the last. -/
def arrayItems : Nat → List Char → Except Fault (List Value × List Char)
  | 0, _ => refuse "nested too deeply"
  | fuel + 1, text =>
    match text with
    | ']' :: rest => .ok ([], rest)
    | _ => do
      let (item, behind) ← value fuel text
      match ← skipBlankLines (behind.length + 1) behind with
      | ']' :: rest => return ([item], rest)
      | ',' :: rest => do
        let (others, after) ← arrayItems fuel (← skipBlankLines (rest.length + 1) rest)
        return (item :: others, after)
      | _ => refuse "unclosed array"

/-- The entries of an inline table; none of its keys may lead into another inline value. -/
def inlineEntries : Nat → List Char → Entries → Marks → Except Fault (Entries × List Char)
  | 0, _, _, _ => refuse "nested too deeply"
  | fuel + 1, text, entries, marks => do
    let (path, behind) ← key text
    let (found, rest) ← value fuel (← equals behind)
    let (above, last) := splitLast path
    if marks.has path .frozen then refuse "cannot mutate immutable namespace"
    else
      match changeTable false (addKey last found) above entries with
      | none => refuse "cannot overwrite a value"
      | some longer =>
        match rest.dropWhile isSpace with
        | '\x7d' :: after => return (longer, after)
        | ',' :: more =>
          inlineEntries fuel (more.dropWhile isSpace) longer
            (if isCollection found then marks.place path .frozen true else marks)
        | _ => refuse "unclosed inline table"

end

/-- A document so far: its entries, its marks, and the table that pairs go to. -/
structure State where
  entries : Entries
  marks : Marks
  header : KeyPath

def State.start : State := ⟨[], Marks.none, []⟩

def wayPaths (header path : KeyPath) : List KeyPath :=
  (List.range (path.length - 1)).map fun count => header ++ path.take (count + 1)

def pair (state : State) (text : List Char) : Except Fault (State × List Char) := do
  let (path, behind) ← key text
  let (found, rest) ← value (text.length + 1) (← equals behind)
  let (above, last) := splitLast path
  let ways := wayPaths state.header path
  if ways.any fun way => state.marks.has way .opened then refuse "cannot redefine namespace"
  else if state.marks.has (state.header ++ above) .frozen then
    refuse "cannot mutate immutable namespace"
  else
    match changeTable true (addKey last found) (state.header ++ above) state.entries with
    | none => refuse "cannot overwrite a value"
    | some entries =>
      -- Pairs under the same header may still add to the tables on the way.
      let awaited := ways.foldl (fun marks way => marks.await way .opened) state.marks
      let marks :=
        if isCollection found then awaited.place (state.header ++ path) .frozen true else awaited
      return ({ state with entries, marks }, rest)

def tableHeader (state : State) (text : List Char) : Except Fault (State × List Char) := do
  let (path, behind) ← key (text.dropWhile isSpace)
  if state.marks.has path .opened || state.marks.has path .frozen then
    refuse "cannot declare a table twice"
  else
    match changeTable true some path state.entries, behind with
    | some entries, ']' :: rest =>
      return (⟨entries, state.marks.place path .opened false, path⟩, rest)
    | none, _ => refuse "cannot overwrite a value"
    | _, _ => refuse "expected ']' at the end of a table declaration"

def listHeader (state : State) (text : List Char) : Except Fault (State × List Char) := do
  let (path, behind) ← key (text.dropWhile isSpace)
  let (above, last) := splitLast path
  if state.marks.has path .frozen then refuse "cannot mutate immutable namespace"
  else
    -- A new table of the list may repeat what the one before it declared.
    let marks := (state.marks.release path).place path .opened false
    match changeTable true (addTable last) above state.entries, behind with
    | some entries, ']' :: ']' :: rest => return (⟨entries, marks, path⟩, rest)
    | none, _ => refuse "cannot overwrite a value"
    | _, _ => refuse "expected ']]' at the end of an array declaration"

def statement (state : State) (text : List Char) : Except Fault (State × List Char) :=
  match text with
  | '[' :: '[' :: rest => listHeader { state with marks := state.marks.settle } rest
  | '[' :: rest => tableHeader { state with marks := state.marks.settle } rest
  | c :: _ =>
    if c = '#' then .ok (state, text)
    else if isBareKeyChar c || c = '"' || c = '\'' then pair state text
    else refuse "invalid statement"
  | [] => .ok (state, [])

def statements : Nat → State → List Char → Except Fault Entries
  | 0, state, _ => .ok state.entries
  | fuel + 1, state, text => do
    match text.dropWhile isSpace with
    | [] => return state.entries
    | '\n' :: rest => statements fuel state rest
    | line => do
      let (after, behind) ← statement state line
      match ← skipComment (behind.dropWhile isSpace) with
      | [] => return after.entries
      | '\n' :: rest => statements fuel after rest
      | _ => refuse "expected newline or end of document after a statement"

def read (text : String) : Except Fault Entries :=
  statements (text.length + 1) State.start text.toList

end PageRoutes.Document.Toml
