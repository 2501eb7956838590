import PageRoutes.RouteTree.Order

/-! A route tree that grows while its ranks are asked for.

Every step names a node by the way down to it; a way that leads nowhere changes nothing and
has no answer. One cache of ranks lives through the steps, so a rank that was answered once is
answered again, whatever was attached in the meantime, until the cache is forgotten.
-/

set_option autoImplicit false

namespace PageRoutes

structure LivingTree where
  root : RouteNode
  cache : RankCache

namespace LivingTree

inductive Step where
  | child (location : List String) (token : String)
  | attach (location : List String) (page : Page)
  | specificity (location : List String)
  | sortedChildren (location : List String)
  | forget

inductive Answer where
  /-- The node after a change. -/
  | node (node : RouteNode)
  | rank (rank : Route.Rank)
  | children (children : List RouteNode)
  | forgotten

def ofRoot (root : RouteNode) : LivingTree := ⟨root, []⟩

def change (tree : LivingTree) (location : List String) (change : RouteNode → RouteNode) :
    Option Answer × LivingTree :=
  match tree.root.get? location with
  | none => (none, tree)
  | some node =>
    (some (.node (change node)), { tree with root := tree.root.changeAt change location })

def step (tree : LivingTree) : Step → Option Answer × LivingTree
  | .child location token => tree.change location fun node => node.withChild token
  | .attach location page => tree.change location fun node => node.attach page
  | .specificity location =>
    match tree.root.get? location with
    | none => (none, tree)
    | some node =>
      let (rank, cache) := RankCache.specificity tree.cache location node
      (some (.rank rank), { tree with cache })
  | .sortedChildren location =>
    match tree.root.get? location with
    | none => (none, tree)
    | some node =>
      let (children, cache) := RankCache.sortedChildren tree.cache location node
      (some (.children children), { tree with cache })
  | .forget => (some .forgotten, ofRoot tree.root)

def run (tree : LivingTree) : List Step → List (Option Answer) × LivingTree
  | [] => ([], tree)
  | first :: rest =>
    let (answer, after) := tree.step first
    let (answers, final) := run after rest
    (answer :: answers, final)

theorem run_append (tree : LivingTree) (first second : List Step) :
    tree.run (first ++ second) =
      ((tree.run first).1 ++ ((tree.run first).2.run second).1,
        ((tree.run first).2.run second).2) := by
  induction first generalizing tree with
  | nil => rfl
  | cons step rest ih => simp [run, ih]

end LivingTree

end PageRoutes
