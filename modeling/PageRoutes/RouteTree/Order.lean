import PageRoutes.RouteTree.Basic

/-! The order of sibling routes.

Pages of a node are ordered by their own rank, and children by their specificity, the
worst rank found anywhere below them; among equals the longer source path or token comes
first, and full ties keep their order. A rank cache remembers answers by the way down to
a node, so that a rank is computed once for a tree that does not change.
-/

set_option autoImplicit false

namespace PageRoutes

def Page.worstRank (pages : List Page) : Route.Rank :=
  pages.foldl (fun worst page => worst.worse page.rank) .index

def Page.before (first second : Page) : Bool :=
  first.rank.level < second.rank.level ||
    (first.rank.level == second.rank.level &&
      second.source.toString.length ≤ first.source.toString.length)

/-- A sibling together with what its place depends on. -/
structure Sibling (α : Type) where
  rank : Route.Rank
  token : String
  value : α

namespace Sibling

variable {α : Type}

def before (first second : Sibling α) : Bool :=
  first.rank.level < second.rank.level ||
    (first.rank.level == second.rank.level && second.token.length ≤ first.token.length)

def inOrder (siblings : List (Sibling α)) : List α :=
  (siblings.mergeSort before).map value

end Sibling

namespace RouteNode

mutual

def specificity : RouteNode → Route.Rank
  | ⟨_, _, pages, children⟩ => (Page.worstRank pages).worse (specificityAll children)

def specificityAll : List RouteNode → Route.Rank
  | [] => .index
  | child :: rest => child.specificity.worse (specificityAll rest)

end

def sortedPages (node : RouteNode) : List Page :=
  node.pages.mergeSort Page.before

def sortedChildren (node : RouteNode) : List RouteNode :=
  Sibling.inOrder (node.children.map fun child => ⟨child.specificity, child.token, child⟩)

end RouteNode

/-- The ranks answered so far, by the way down to the node. -/
abbrev RankCache := List (List String × Route.Rank)

namespace RankCache

mutual

/-- The remembered rank of a node, or its rank computed through the cache and remembered. -/
def specificity (cache : RankCache) (location : List String) : RouteNode → Route.Rank × RankCache
  | ⟨_, _, pages, children⟩ =>
    match cache.lookup location with
    | some known => (known, cache)
    | none =>
      -- The cache is asked for the children as well, so what it knows of them may be old.
      let (below, after) := worstOf cache location children
      let found := (Page.worstRank pages).worse below
      (found, (location, found) :: after)

def worstOf (cache : RankCache) (location : List String) :
    List RouteNode → Route.Rank × RankCache
  | [] => (.index, cache)
  | child :: rest =>
    let (first, afterFirst) := specificity cache (location ++ [child.token]) child
    let (others, after) := worstOf afterFirst location rest
    (first.worse others, after)

end

def rankChildren (cache : RankCache) (location : List String) :
    List RouteNode → List (Sibling RouteNode) × RankCache
  | [] => ([], cache)
  | child :: rest =>
    let (first, afterFirst) := specificity cache (location ++ [child.token]) child
    let (others, after) := rankChildren afterFirst location rest
    (⟨first, child.token, child⟩ :: others, after)

def sortedChildren (cache : RankCache) (location : List String) (node : RouteNode) :
    List RouteNode × RankCache :=
  let (ranked, after) := rankChildren cache location node.children
  (Sibling.inOrder ranked, after)

end RankCache

end PageRoutes
