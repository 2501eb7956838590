import PageRoutes.Document.Yaml.Graph.Merge
import PageRoutes.Document.Yaml.Graph.Reading

/-! The value of a YAML document.

A document has a value when every node has one: scalars by their form, collections by their
kind, and no collection as a key. Collections are filled only after all their siblings have
begun, so the first fault is the one nearest to the root, and among equals the one that comes
first. A repeated key keeps its first place and its last value.
-/

set_option autoImplicit false

namespace PageRoutes.Document.Yaml

inductive CollectionKind where
  | list
  | pairs
  | members
  | mapping
  deriving DecidableEq

def CollectionKind.ofTag? (tag : String) : Option CollectionKind :=
  if tag = standardTag "seq" then some .list
  else if tag = standardTag "omap" || tag = standardTag "pairs" then some .pairs
  else if tag = standardTag "set" then some .members
  else if tag = standardTag "map" then some .mapping
  else none

/-- What a node means; a collection refers to the nodes in it. -/
inductive Meaning where
  | scalar (value : Value)
  | list (items : List NodeId)
  | pairs (items : List (NodeId × NodeId))
  | members (keys : List Value)
  | mapping (entries : Keyed NodeId)

def CollectionKind.empty : CollectionKind → Meaning
  | .list => .list []
  | .pairs => .pairs []
  | .members => .members []
  | .mapping => .mapping []

structure Progress where
  graph : Graph
  meanings : Array (Option Meaning)
  /-- Collections that have begun and are not filled, the newest first. -/
  waiting : List (NodeId × CollectionKind)

abbrev Evaluation := StateT Progress (Except Fault)

namespace Evaluation

/-- The text of a scalar. A mapping has one too, if it has an entry for a lone equals sign. -/
def text (graph : Graph) : Nat → NodeId → Except Fault (List Char)
  | 0, _ => .error .endless
  | fuel + 1, id =>
    match graph.get? id with
    | some ⟨_, .scalar text⟩ => .ok text
    | some ⟨_, .mapping entries⟩ =>
      match entries.find? fun entry => graph.isTagged entry.1 "value" with
      | some (_, value) => text graph fuel value
      | none => .error (.malformed "expected a scalar node")
    | _ => .error (.malformed "expected a scalar node")

def scalar (graph : Graph) (id : NodeId) (tag : String) : Except Fault Value := do
  match Scalar.reader? tag with
  | none => throw (.malformed ("could not determine a constructor for the tag " ++ tag))
  | some read => do
    -- More steps than there are nodes lead in a circle.
    let text ← text graph (graph.nodes.size + 1) id
    if tag = standardTag "timestamp" && graph.isMapping id then throw .timestampOfMapping
    read text

def meaning? (id : NodeId) : Evaluation (Option Meaning) :=
  return ((← get).meanings[id]?).join

def record (id : NodeId) (meaning : Meaning) : Evaluation Unit :=
  modify fun progress =>
    { progress with meanings := progress.meanings.setIfInBounds id (some meaning) }

/-- Evaluates a scalar, or begins a collection; a node is evaluated only once. -/
def enter (id : NodeId) : Evaluation Unit := do
  if (← meaning? id).isSome then return
  let graph := (← get).graph
  match graph.get? id with
  | none => return
  | some node =>
    match CollectionKind.ofTag? node.tag with
    | some kind => do
      record id kind.empty
      modify fun progress => { progress with waiting := (id, kind) :: progress.waiting }
    | none => record id (.scalar (← scalar graph id node.tag))

def enterKey (id : NodeId) : Evaluation Value := do
  enter id
  match ← meaning? id with
  | some (.scalar value) => return value
  | _ => throw (.malformed "found unhashable key")

def items (id : NodeId) : Evaluation (List NodeId) := do
  match (← get).graph.get? id with
  | some ⟨_, .sequence items⟩ => return items
  | _ => throw (.malformed "expected a sequence node")

def entries (id : NodeId) : Evaluation (Keyed NodeId) := do
  let graph := (← get).graph
  if !graph.isMapping id then throw (.malformed "expected a mapping node")
  let merged ← graph.merge id
  modify fun progress => { progress with graph := merged }
  (merged.entries id).foldlM (fun entries (key, value) => do
    let keyValue ← enterKey key
    enter value
    return entries.put keyValue value) []

def pair (id : NodeId) : Evaluation (NodeId × NodeId) := do
  match (← get).graph.get? id with
  | some ⟨_, .mapping [(key, value)]⟩ => do
    enter key
    enter value
    return (key, value)
  | _ => throw (.malformed "expected a mapping of length 1")

def fill (id : NodeId) : CollectionKind → Evaluation Meaning
  | .list => do
    let items ← items id
    items.forM enter
    return .list items
  | .pairs => return .pairs (← (← items id).mapM pair)
  | .members => return .members ((← entries id).map Prod.fst)
  | .mapping => return .mapping (← entries id)

/-- Fills the collections that have begun, then those that began meanwhile, and so on. -/
def fillWaiting : Nat → Evaluation Unit
  | 0 => return ()
  | rounds + 1 => do
    let waiting := (← get).waiting.reverse
    if waiting.isEmpty then return
    modify fun progress => { progress with waiting := [] }
    waiting.forM fun (id, kind) => do record id (← fill id kind)
    fillWaiting rounds

def evaluate (root : NodeId) : Evaluation Unit := do
  enter root
  fillWaiting ((← get).graph.nodes.size + 1)

end Evaluation

/-- The value of a node down to a depth, below which collections are empty: a collection that
holds itself has no end. -/
def unfolded (meanings : Array (Option Meaning)) : Nat → NodeId → Value
  | depth, id =>
    match meanings[id]?.join with
    | none => .null
    | some (.scalar value) => value
    | some (.members keys) => .members keys
    | some (.list items) =>
      match depth with
      | 0 => .list []
      | below + 1 => .list (items.map (unfolded meanings below))
    | some (.pairs items) =>
      match depth with
      | 0 => .list []
      | below + 1 => .list (items.map fun (key, value) =>
          .list [unfolded meanings below key, unfolded meanings below value])
    | some (.mapping entries) =>
      match depth with
      | 0 => .mapping []
      | below + 1 => .mapping (entries.map fun (key, value) =>
          (key, unfolded meanings below value))

/-- A configuration looks at the entries of a document, at those of a section in it, and at the
kinds of their values. -/
def depthLookedAt : Nat := 3

/-- The value of a text as far as it is looked at; a stream without a document is null. -/
def read (text : String) : Except Fault Value := do
  match ← Graph.ofText? text.toList with
  | (_, none) => return .null
  | (graph, some root) => do
    let ((), progress) ← (Evaluation.evaluate root).run
      ⟨graph, Array.replicate graph.nodes.size none, []⟩
    return unfolded progress.meanings depthLookedAt root

end PageRoutes.Document.Yaml
