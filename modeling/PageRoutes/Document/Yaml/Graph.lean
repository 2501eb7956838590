import PageRoutes.Document.Yaml.Scalar

/-! The nodes of a YAML document, linked by their numbers.

An alias stands for the node of its anchor, so one node may stand at several places, and even
inside itself. What happens to the tag or to the entries of a node happens at all its places.
-/

set_option autoImplicit false

namespace PageRoutes.Document.Yaml

/-- The number of a node, in the order in which the nodes begin. -/
abbrev NodeId := Nat

inductive Content where
  | scalar (text : List Char)
  | sequence (items : List NodeId)
  | mapping (entries : List (NodeId × NodeId))

structure Node where
  tag : String
  content : Content

namespace Node

def absent : Node := ⟨standardTag "null", .scalar []⟩

end Node

structure Graph where
  nodes : Array Node

namespace Graph

def empty : Graph := ⟨#[]⟩

def get? (graph : Graph) (id : NodeId) : Option Node := graph.nodes[id]?

def add (graph : Graph) (node : Node) : Graph × NodeId :=
  (⟨graph.nodes.push node⟩, graph.nodes.size)

def update (graph : Graph) (id : NodeId) (change : Node → Node) : Graph :=
  ⟨graph.nodes.modify id change⟩

def setContent (graph : Graph) (id : NodeId) (content : Content) : Graph :=
  graph.update id fun node => { node with content }

def setTag (graph : Graph) (id : NodeId) (tag : String) : Graph :=
  graph.update id fun node => { node with tag }

def isTagged (graph : Graph) (id : NodeId) (name : String) : Bool :=
  match graph.get? id with
  | some node => node.tag = standardTag name
  | none => false

def entries (graph : Graph) (id : NodeId) : List (NodeId × NodeId) :=
  match graph.get? id with
  | some ⟨_, .mapping entries⟩ => entries
  | _ => []

@[simp] theorem get?_add_self (graph : Graph) (node : Node) :
    (graph.add node).1.get? (graph.add node).2 = some node := by
  simp [add, get?]

theorem get?_add_of_lt (graph : Graph) (node : Node) {id : NodeId}
    (old : id < graph.nodes.size) : (graph.add node).1.get? id = graph.get? id := by
  simp only [add, get?]
  rw [Array.getElem?_push, if_neg (Nat.ne_of_lt old)]

theorem get?_update_self (graph : Graph) (id : NodeId) (change : Node → Node) :
    (graph.update id change).get? id = (graph.get? id).map change := by
  simp [update, get?, Array.getElem?_modify]

theorem get?_update_of_ne (graph : Graph) {id other : NodeId} (change : Node → Node)
    (differs : id ≠ other) : (graph.update id change).get? other = graph.get? other := by
  simp [update, get?, Array.getElem?_modify, differs]

end Graph

end PageRoutes.Document.Yaml
