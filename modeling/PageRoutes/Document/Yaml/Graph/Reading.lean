import PageRoutes.Document.Yaml.Graph
import PageRoutes.Document.Yaml.Token

/-! The graph of a YAML text, read off its tokens.

A text holds at most one document. The node of an anchor can be referred to from where it
begins. What is wrong with the tokens is noticed when the reading comes to them, so a fault of
an earlier place is reported first.
-/

set_option autoImplicit false

namespace PageRoutes.Document.Yaml

/-- What is left to read, and what the document has declared so far. -/
structure Reader where
  tokens : List Token
  /-- Why no tokens come behind these, if something is wrong. -/
  fault : Option Fault
  anchors : List (List Char × NodeId)
  handles : List (List Char × List Char)
  graph : Graph

abbrev Reading := StateT Reader (Except Fault)

namespace Reading

def standardHandles : List (List Char × List Char) :=
  [(['!'], ['!']), (['!', '!'], (standardTag "").toList)]

def peek : Reading Token := do
  let reader ← get
  match reader.tokens, reader.fault with
  | token :: _, _ => return token
  | [], some fault => throw fault
  | [], none => return .streamEnd

def skip : Reading Unit := modify fun reader => { reader with tokens := reader.tokens.tail }

def refuse {α : Type} (reason : String) : Reading α := throw (.malformed reason)

def expect (token : Token) : Reading Unit := do
  if (← peek) = token then skip else refuse "unexpected token"

def fullTag : Option (List Char) × List Char → Reading String
  | (none, suffix) => return String.ofList suffix
  | (some handle, suffix) => do
    match (← get).handles.lookup handle with
    | some start => return String.ofList (start ++ suffix)
    | none => refuse "found undefined tag handle"

def tagHere : Reading (Option (Option (List Char) × List Char)) := do
  match ← peek with
  | .tag handle suffix => do
    skip
    return some (handle, suffix)
  | _ => return none

def anchorHere : Reading (Option (List Char)) := do
  match ← peek with
  | .anchor name => do
    skip
    return some name
  | _ => return none

def properties : Reading (Option (List Char) × Option String) := do
  match ← anchorHere with
  | some anchor =>
    match ← tagHere with
    | some tag => return (some anchor, some (← fullTag tag))
    | none => return (some anchor, none)
  | none =>
    match ← tagHere with
    | some tag => do
      -- An anchor behind the tag is read before the tag is understood.
      let anchor ← anchorHere
      return (anchor, some (← fullTag tag))
    | none => return (none, none)

def add (node : Node) : Reading NodeId := do
  let reader ← get
  let (graph, id) := reader.graph.add node
  set { reader with graph }
  return id

/-- Adds a node that begins here, with its anchor, which may not have been used before. -/
def declare (anchor : Option (List Char)) (node : Node) : Reading NodeId := do
  match anchor with
  | none => add node
  | some name =>
    if ((← get).anchors.lookup name).isSome then refuse "found duplicate anchor"
    let id ← add node
    modify fun reader => { reader with anchors := (name, id) :: reader.anchors }
    return id

def complete (id : NodeId) (content : Content) : Reading NodeId := do
  modify fun reader => { reader with graph := reader.graph.setContent id content }
  return id

def collectionTag (tag : Option String) (kind : String) : String :=
  match tag with
  | some asked => if asked = "!" then standardTag kind else asked
  | none => standardTag kind

def scalarTag (tag : Option String) (plain : Bool) (text : List Char) : String :=
  match tag with
  | some asked => if asked = "!" then impliedTag text else asked
  | none => if plain then impliedTag text else standardTag "str"

mutual

/-- One node. Block collections may start only where `block` allows it, and a sequence without
an indentation of its own only where `indentless` does. -/
def node : Nat → Bool → Bool → Reading NodeId
  | 0, _, _ => refuse "nested too deeply"
  | fuel + 1, block, indentless => do
    match ← peek with
    | .alias name => do
      skip
      match (← get).anchors.lookup name with
      | some id => return id
      | none => refuse "found undefined alias"
    | _ => do
      let (anchor, tag) ← properties
      let beginSequence := declare anchor ⟨collectionTag tag "seq", .sequence []⟩
      let beginMapping := declare anchor ⟨collectionTag tag "map", .mapping []⟩
      match ← peek with
      | .scalar plain text => do
        skip
        declare anchor ⟨scalarTag tag plain text, .scalar text⟩
      | .flowSequenceStart => do
        let id ← beginSequence
        skip
        complete id (.sequence (← flowItems fuel true))
      | .flowMappingStart => do
        let id ← beginMapping
        skip
        complete id (.mapping (← flowEntries fuel true))
      | token => do
        if token = .blockEntry && indentless then
          let id ← beginSequence
          complete id (.sequence (← indentlessItems fuel))
        else if token = .blockSequenceStart && block then
          let id ← beginSequence
          skip
          complete id (.sequence (← blockItems fuel))
        else if token = .blockMappingStart && block then
          let id ← beginMapping
          skip
          complete id (.mapping (← blockEntries fuel))
        else if anchor.isSome || tag.isSome then
          declare anchor ⟨scalarTag tag true [], .scalar []⟩
        else refuse "expected the node content"

/-- A node, or nothing in front of one of these tokens. -/
def nodeUnless : Nat → List Token → Bool → Bool → Reading NodeId
  | 0, _, _, _ => refuse "nested too deeply"
  | fuel + 1, stops, block, indentless => do
    if stops.contains (← peek) then add .absent else node fuel block indentless

def blockItems : Nat → Reading (List NodeId)
  | 0 => refuse "nested too deeply"
  | fuel + 1 => do
    match ← peek with
    | .blockEntry => do
      skip
      let item ← nodeUnless fuel [.blockEntry, .blockEnd] true false
      return item :: (← blockItems fuel)
    | _ => do
      expect .blockEnd
      return []

def indentlessItems : Nat → Reading (List NodeId)
  | 0 => refuse "nested too deeply"
  | fuel + 1 => do
    match ← peek with
    | .blockEntry => do
      skip
      let item ← nodeUnless fuel [.blockEntry, .key, .value, .blockEnd] true false
      return item :: (← indentlessItems fuel)
    | _ => return []

def blockEntries : Nat → Reading (List (NodeId × NodeId))
  | 0 => refuse "nested too deeply"
  | fuel + 1 => do
    match ← peek with
    | .key => do
      skip
      let key ← nodeUnless fuel [.key, .value, .blockEnd] true true
      let value ← match ← peek with
        | .value => do
          skip
          nodeUnless fuel [.key, .value, .blockEnd] true true
        | _ => add .absent
      return (key, value) :: (← blockEntries fuel)
    | _ => do
      expect .blockEnd
      return []

def flowItems : Nat → Bool → Reading (List NodeId)
  | 0, _ => refuse "nested too deeply"
  | fuel + 1, first => do
    if (← peek) = .flowSequenceEnd then
      skip
      return []
    if !first then expect .flowEntry
    match ← peek with
    | .key => do
      -- A lone entry among items is a mapping of its own.
      let id ← add ⟨standardTag "map", .mapping []⟩
      skip
      let key ← nodeUnless fuel [.value, .flowEntry, .flowSequenceEnd] false false
      let value ← match ← peek with
        | .value => do
          skip
          nodeUnless fuel [.flowEntry, .flowSequenceEnd] false false
        | _ => add .absent
      let item ← complete id (.mapping [(key, value)])
      return item :: (← flowItems fuel false)
    | .flowSequenceEnd => do
      skip
      return []
    | _ => do
      let item ← node fuel false false
      return item :: (← flowItems fuel false)

def flowEntries : Nat → Bool → Reading (List (NodeId × NodeId))
  | 0, _ => refuse "nested too deeply"
  | fuel + 1, first => do
    if (← peek) = .flowMappingEnd then
      skip
      return []
    if !first then expect .flowEntry
    match ← peek with
    | .key => do
      skip
      let key ← nodeUnless fuel [.value, .flowEntry, .flowMappingEnd] false false
      let value ← match ← peek with
        | .value => do
          skip
          nodeUnless fuel [.flowEntry, .flowMappingEnd] false false
        | _ => add .absent
      return (key, value) :: (← flowEntries fuel false)
    | .flowMappingEnd => do
      skip
      return []
    | _ => do
      let key ← node fuel false false
      let value ← add .absent
      return (key, value) :: (← flowEntries fuel false)

end

def directives : Nat → Bool → Reading Unit
  | 0, _ => refuse "too many directives"
  | fuel + 1, versionSeen => do
    match ← peek with
    | .directive (.version major _) => do
      skip
      if versionSeen then refuse "found duplicate YAML directive"
      else if major ≠ 1 then refuse "found incompatible YAML document"
      else directives fuel true
    | .directive (.tagHandle handle start) => do
      skip
      if ((← get).handles.lookup handle).isSome then refuse "duplicate tag handle"
      modify fun reader => { reader with handles := (handle, start) :: reader.handles }
      directives fuel versionSeen
    | .directive .other => do
      skip
      directives fuel versionSeen
    | _ => return ()

def skipDocumentEnds : Nat → Reading Unit
  | 0 => return ()
  | fuel + 1 => do
    if (← peek) = .documentEnd then
      skip
      skipDocumentEnds fuel

def isDirective : Token → Bool
  | .directive _ => true
  | _ => false

def documentStart (fuel : Nat) : Reading Unit := do
  modify fun reader => { reader with handles := [] }
  directives fuel false
  modify fun reader => { reader with handles := reader.handles ++ standardHandles }
  expect .documentStart

def content (fuel : Nat) : Reading NodeId := do
  let token ← peek
  if isDirective token || [Token.documentStart, .documentEnd, .streamEnd].contains token then
    add .absent
  else node fuel true false

def document : Reading (Option NodeId) := do
  let fuel := 4 * (← get).tokens.length + 4
  let token ← peek
  if token = .streamEnd then return none
  let root ←
    if isDirective token || token = .documentStart then do
      documentStart fuel
      content fuel
    else node fuel true false
  skipDocumentEnds fuel
  if (← peek) = .streamEnd then return some root
  -- The beginning of another document is read before it is refused.
  documentStart fuel
  refuse "expected a single document in the stream"

end Reading

def Graph.ofText? (text : List Char) : Except Fault (Graph × Option NodeId) := do
  let scanned := Token.scan text
  let (root, reader) ← Reading.document.run
    ⟨scanned.tokens, scanned.fault, [], Reading.standardHandles, .empty⟩
  return (reader.graph, root)

end PageRoutes.Document.Yaml
