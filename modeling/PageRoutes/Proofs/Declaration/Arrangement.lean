import PageRoutes.Proofs.RouteTree.History
import PageRoutes.Proofs.RouteTree.Queries

/-! The order in which a node declares what it holds.

The pages of a node are declared first and its children after them, each once. Both are ordered
by their level, the longer name first, and what ties in both stands in the order in which it came
to the node. The tree itself keeps the order of its history.
-/

set_option autoImplicit false

namespace PageRoutes

namespace LivingTree

theorem root_step_of_query (tree : LivingTree) {query : Step} (asks : query.IsQuery) :
    (tree.step query).2.root = tree.root := by
  rcases tree.step_cases query with ⟨place, token, node, rfl, -⟩ | ⟨place, page, node, rfl, -⟩ |
    ⟨-, after⟩
  · exact absurd asks id
  · exact absurd asks id
  · exact after

end LivingTree

namespace Declaration

open LivingTree

/-- A node declares each of its pages and then each of its children once, arranged by level and
length with ties in the order of their history; and nothing of this changes the tree. -/
theorem declarations_arranged {root node : RouteNode} {location : List String}
    (distinct : root.Distinct) (reached : root.get? location = some node) :
    (∀ cache, RankCache.Coherent root cache →
      (RankCache.sortedChildren cache location node).1 = node.sortedChildren ∧
        ∀ isRoot, (ofNodeWith cache location isRoot node).1 = ofNode isRoot node) ∧
    (∀ isRoot, ofNode isRoot node = enclose isRoot node.token node.layout
      (node.sortedPages.map Page.declaration ++ node.sortedChildren.flatMap (ofNode false))) ∧
    Arranged (fun page => page.rank.level) (fun page => page.source.toString.length)
      node.pages node.sortedPages ∧
    Arranged RouteNode.walkLevel (fun child => child.token.length)
      node.children node.sortedChildren ∧
    (∀ token steps, ((LivingTree.ofRoot (RouteNode.empty token)).run steps).2.root = root →
      Recalls ((LivingTree.ofRoot (RouteNode.empty token)).taken steps) location node) ∧
    ∀ cache query, query.IsQuery → (LivingTree.step ⟨root, cache⟩ query).2.root = root := by
  have below : node.Distinct := distinct.get? reached
  refine ⟨fun cache coherent => ⟨?_, fun isRoot => ?_⟩, fun isRoot => ?_,
    node.arranged_sortedPages, node.arranged_sortedChildren, ?_, fun cache query asks => ?_⟩
  · exact (RankCache.sortedChildren_eq reached below coherent).1
  · exact (emits_ofNode reached below cache isRoot coherent).1
  · rw [ofNode_eq_enclose, RouteNode.sortedChildren_eq_mergeSort]
  · rintro token steps rfl
    exact recalls_run reached
  · exact root_step_of_query ⟨root, cache⟩ asks

/-- Pages and children that tie in everything stand in the order of their history, also where one of
them comes again. -/
theorem declarations_of_ties :
    let page (source component : String) : Page := ⟨Path.ofString source, component⟩
    let steps : List Step := [.child [] "b", .attach [] (page "/p/[x].tsx" "Page0"),
      .attach [] (page "/p/d.tsx" "Page1"), .child [] "a",
      .attach ["c"] (page "/p/c/e.tsx" "Page2"), .attach ["a"] (page "/p/a/e.tsx" "Page3"),
      .attach ["b"] (page "/p/b/e.tsx" "Page4"), .attach [] (page "/p/c.tsx" "Page5"),
      .child [] "b", .attach [] (page "/p/d.tsx" "Page6")]
    let root := ((LivingTree.ofRoot (RouteNode.empty RouteNode.rootToken)).run steps).2.root
    root.Distinct ∧ root.get? [] = some root ∧
      Recalls ((LivingTree.ofRoot (RouteNode.empty RouteNode.rootToken)).taken steps) [] root ∧
      (root.sortedPages.filter fun page => page.rank.level = 1 ∧
        page.source.toString.length = 8).map Page.component = ["Page6", "Page5"] ∧
      (root.sortedChildren.filter fun child => child.walkLevel = 1 ∧
        child.token.length = 1).map RouteNode.token = ["b", "a"] := by
  intro page steps root
  have distinct : root.Distinct := distinct_run (RouteNode.distinct_empty _) steps
  have reached : root.get? [] = some root := root.get?_nil
  obtain ⟨-, -, pages, children, recalls, -⟩ := declarations_arranged distinct reached
  refine ⟨distinct, reached, recalls RouteNode.rootToken steps rfl, ?_, ?_⟩
  · rw [pages.stable]
    decide +kernel
  · rw [children.stable]
    decide +kernel

end Declaration

end PageRoutes
