import PageRoutes.Declaration.Basic
import PageRoutes.RouteTree.Order

/-! The declarations of a route tree.

The pages of a node come first and its children after them. A layout encloses all of
it, a node without one is a group by its token, and the root without a layout encloses
nothing. What holds no page declares nothing.
-/

set_option autoImplicit false

namespace PageRoutes

def Page.declaration (page : Page) : Declaration :=
  if page.isIndex then .index page.component
  else .page (Route.token page.name) page.component

namespace Declaration

def enclose (isRoot : Bool) (token : String) (layout : Option Page)
    (inner : List Declaration) : List Declaration :=
  if inner.isEmpty then []
  else
    match layout with
    | some wrapper =>
      [.group (if isRoot then RouteNode.rootToken else token) (some wrapper.component) inner]
    | none => if isRoot then inner else [.group token none inner]

mutual

/-- The declarations of a node, with every rank computed anew. -/
def ofNode (isRoot : Bool) : RouteNode → List Declaration
  | ⟨token, layout, pages, children⟩ =>
    enclose isRoot token layout
      ((pages.mergeSort Page.before).map Page.declaration ++
        (Sibling.inOrder (ofChildren children)).flatten)

def ofChildren : List RouteNode → List (Sibling (List Declaration))
  | [] => []
  | child :: rest => ⟨child.specificity, child.token, ofNode false child⟩ :: ofChildren rest

end

/-- What declares a subtree with the ranks that a cache remembers. -/
abbrev Emission := RankCache → List Declaration × RankCache

def emitEach : List Emission → Emission
  | [], cache => ([], cache)
  | first :: rest, cache =>
    let (declared, between) := first cache
    let (others, after) := emitEach rest between
    (declared ++ others, after)

mutual

/-- The declarations of a node, with one cache for the ranks of the whole tree. -/
def ofNodeWith (cache : RankCache) (location : List String) (isRoot : Bool) :
    RouteNode → List Declaration × RankCache
  | ⟨token, layout, pages, children⟩ =>
    -- All children are ranked before the first of them is emitted.
    let (ranked, between) := RankCache.rankChildren cache location children
    let siblings := ranked.zipWith (fun child emission => ⟨child.rank, child.token, emission⟩)
      (emissions location children)
    let (below, after) := emitEach (Sibling.inOrder siblings) between
    (enclose isRoot token layout ((pages.mergeSort Page.before).map Page.declaration ++ below),
      after)

def emissions (location : List String) : List RouteNode → List Emission
  | [] => []
  | child :: rest =>
    (fun cache => ofNodeWith cache (location ++ [child.token]) false child) ::
      emissions location rest

end

def ofRoot (root : RouteNode) : List Declaration :=
  (ofNodeWith [] [] true root).1

end Declaration

end PageRoutes
