import PageRoutes.RouteTree.Basic

/-! Route trees without the subtrees that hold no page. -/

set_option autoImplicit false

namespace PageRoutes.RouteNode

mutual

def holdsPage : RouteNode → Bool
  | ⟨_, _, pages, children⟩ => !pages.isEmpty || anyHoldsPage children

def anyHoldsPage : List RouteNode → Bool
  | [] => false
  | child :: rest => child.holdsPage || anyHoldsPage rest

end

mutual

/-- The node with only those children, and so on below them, that hold a page. -/
def pruned : RouteNode → RouteNode
  | ⟨token, layout, pages, children⟩ => ⟨token, layout, pages, prunedAll children⟩

def prunedAll : List RouteNode → List RouteNode
  | [] => []
  | child :: rest => if child.holdsPage then child.pruned :: prunedAll rest else prunedAll rest

end

mutual

theorem holdsPage_iff (node : RouteNode) :
    node.holdsPage = true ↔ ∃ found ∈ node.walk, found.pages ≠ [] := by
  obtain ⟨token, layout, pages, children⟩ := node
  have below := anyHoldsPage_iff children
  cases pages with
  | nil => simp [holdsPage, walk, below]
  | cons page rest => simp [holdsPage, walk]

theorem anyHoldsPage_iff (children : List RouteNode) :
    anyHoldsPage children = true ↔ ∃ found ∈ walkAll children, found.pages ≠ [] := by
  match children with
  | [] => simp [anyHoldsPage, walkAll]
  | child :: rest =>
    have first := holdsPage_iff child
    have others := anyHoldsPage_iff rest
    simp only [anyHoldsPage, walkAll, Bool.or_eq_true, first, others, List.mem_append, or_and_right,
      exists_or]

end

mutual

theorem holdsPage_pruned (node : RouteNode) : node.pruned.holdsPage = node.holdsPage := by
  obtain ⟨token, layout, pages, children⟩ := node
  simp [pruned, holdsPage, anyHoldsPage_prunedAll children]

theorem anyHoldsPage_prunedAll (children : List RouteNode) :
    anyHoldsPage (prunedAll children) = anyHoldsPage children := by
  match children with
  | [] => rfl
  | child :: rest =>
    by_cases holds : child.holdsPage
    · simp [prunedAll, anyHoldsPage, holds, holdsPage_pruned child]
    · simp [prunedAll, anyHoldsPage, holds, anyHoldsPage_prunedAll rest]

end

end PageRoutes.RouteNode
