import PageRoutes.Document.Yaml.Graph

/-! Mappings that take in the entries of others.

The value of a merge entry is a mapping or a list of mappings. Merge entries go, and the
entries of the mappings they lead to come in front of a mapping's own; of a list, the last
mapping comes first, so that the first one has the last word. A lone equals sign as a key
becomes a text. Afterwards the mappings that were merged have no merge entries either.
-/

set_option autoImplicit false

namespace PageRoutes.Document.Yaml.Graph

abbrev Merging := StateT Graph (Except Fault)

def isMapping (graph : Graph) (id : NodeId) : Bool :=
  match graph.get? id with
  | some ⟨_, .mapping _⟩ => true
  | _ => false

def isMergeEntry (graph : Graph) (entry : NodeId × NodeId) : Bool := graph.isTagged entry.1 "merge"

def takeMerge (id : NodeId) : Merging (Option NodeId) := do
  let graph ← get
  let entries := graph.entries id
  match entries.findIdx? graph.isMergeEntry with
  | none => return none
  | some index =>
    set (graph.setContent id (.mapping (entries.eraseIdx index)))
    return (entries[index]?).map Prod.snd

/-- Makes texts of the lone equals signs among the keys of a mapping. -/
def retagKeys (graph : Graph) (id : NodeId) : Graph :=
  (graph.entries id).foldl (fun graph (key, _) =>
    if graph.isTagged key "value" then graph.setTag key (standardTag "str") else graph) graph

mutual

/-- Takes out the merge entries of a mapping and puts in what they stand for. -/
def mergeInto : Nat → NodeId → Merging Unit
  | 0, _ => return ()
  | fuel + 1, id => do
    let merged ← mergedEntries fuel id
    modify fun graph =>
      (graph.setContent id (.mapping (merged ++ graph.entries id))).retagKeys id

def mergedEntries : Nat → NodeId → Merging (List (NodeId × NodeId))
  | 0, _ => return []
  | fuel + 1, id => do
    match ← takeMerge id with
    | none => return []
    | some source => do
      let first ← sourceEntries fuel source
      return first ++ (← mergedEntries fuel id)

def sourceEntries : Nat → NodeId → Merging (List (NodeId × NodeId))
  | 0, _ => return []
  | fuel + 1, source => do
    match (← get).get? source with
    | some ⟨_, .mapping _⟩ => do
      mergeInto fuel source
      return (← get).entries source
    | some ⟨_, .sequence items⟩ => do
      let parts ← items.mapM fun item => do
        if !(← get).isMapping item then throw (.malformed "expected a mapping for merging")
        mergeInto fuel item
        return (← get).entries item
      return parts.reverse.flatten
    | _ => throw (.malformed "expected a mapping or list of mappings for merging")

end

def mergeCount (graph : Graph) : Nat :=
  graph.nodes.foldl (fun count node =>
    match node.content with
    | .mapping entries => count + entries.countP graph.isMergeEntry
    | _ => count) 0

def merge (graph : Graph) (id : NodeId) : Except Fault Graph := do
  -- Each merge entry takes three steps down: to its value, into it, and on to the next one.
  let (_, merged) ← (mergeInto (3 * graph.mergeCount + 3) id).run graph
  return merged

end PageRoutes.Document.Yaml.Graph
