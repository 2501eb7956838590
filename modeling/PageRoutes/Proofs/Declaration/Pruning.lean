import PageRoutes.Proofs.Declaration.ReadBack
import PageRoutes.Proofs.RouteTree.Growth

/-! Subtrees without pages.

What holds no page declares nothing, and any other directory declares exactly one element. This
does not depend on the order of siblings, so it holds for any cache of ranks, right or wrong. The
order that is left among the others is the same without such subtrees. Main statement: what a node
declares can be counted on its walk, and the pruned tree has the declarations of the whole tree.
-/

set_option autoImplicit false

namespace PageRoutes

namespace RouteNode

theorem any_walk_eq_holdsPage (node : RouteNode) :
    (node.walk.any fun found => !found.pages.isEmpty) = node.holdsPage := by
  rw [Bool.eq_iff_iff, holdsPage_iff, List.any_eq_true]
  simp

theorem distinct_pruned {node : RouteNode} (distinct : node.Distinct) : node.pruned.Distinct := by
  induction node using childrenFirst with
  | step token layout pages children ih =>
    rw [pruned, prunedAll_eq]
    apply Distinct.node
    · have tokens : ((children.filter holdsPage).map pruned).map RouteNode.token =
          (children.filter holdsPage).map RouteNode.token := by
        rw [List.map_map]
        exact List.map_congr_left fun child _ => token_pruned child
      rw [tokens]
      exact distinct.tokens.sublist (List.filter_sublist.map _)
    · intro found member
      obtain ⟨child, kept, rfl⟩ := List.mem_map.1 member
      have listed := (List.mem_filter.1 kept).1
      exact ih child listed (distinct.child listed)

theorem pruned_pruned (node : RouteNode) : node.pruned.pruned = node.pruned := by
  induction node using childrenFirst with
  | step token layout pages children ih =>
    have kept : ((children.filter holdsPage).map pruned).filter holdsPage =
        (children.filter holdsPage).map pruned := by
      rw [List.filter_eq_self]
      intro found member
      obtain ⟨child, listed, rfl⟩ := List.mem_map.1 member
      rw [holdsPage_pruned]
      exact (List.mem_filter.1 listed).2
    simp only [pruned, prunedAll_eq, kept, List.map_map]
    congr 1
    exact List.map_congr_left fun child listed => ih child (List.mem_filter.1 listed).1

end RouteNode

namespace Declaration

open RouteNode

theorem length_enclose (isRoot : Bool) (token : String) (layout : Option Page)
    (inner : List Declaration) :
    (enclose isRoot token layout inner).length =
      if inner.length = 0 then 0
      else if isRoot = true ∧ layout = none then inner.length else 1 := by
  unfold enclose
  cases inner with
  | nil => rfl
  | cons first rest => cases layout <;> cases isRoot <;> simp

theorem enclose_eq_nil_iff (isRoot : Bool) (token : String) (layout : Option Page)
    (inner : List Declaration) : enclose isRoot token layout inner = [] ↔ inner = [] := by
  unfold enclose
  cases inner with
  | nil => simp
  | cons first rest => cases layout <;> cases isRoot <;> simp

def innerWith (cache : RankCache) (location : List String) (node : RouteNode) : List Declaration :=
  let sorted := RankCache.sortedChildren cache location node
  node.sortedPages.map Page.declaration ++ (emitEach (sorted.1.map (emission location)) sorted.2).1

theorem ofNodeWith_eq_enclose (cache : RankCache) (location : List String) (isRoot : Bool)
    (node : RouteNode) :
    (ofNodeWith cache location isRoot node).1 =
      enclose isRoot node.token node.layout (innerWith cache location node) := by
  rw [ofNodeWith_eq]
  rfl

/-- Whatever the cache answers, children that hold a page declare one thing and others nothing, if
each of them does so. -/
theorem length_emitEach {children : List RouteNode}
    (each : ∀ child ∈ children, ∀ cache location,
      (ofNodeWith cache location false child).1.length = if child.holdsPage then 1 else 0)
    (cache : RankCache) (location : List String) :
    (emitEach (children.map (emission location)) cache).1.length =
      children.countP holdsPage := by
  induction children generalizing cache with
  | nil => rfl
  | cons child rest ih =>
    have others := ih fun other member => each other (List.mem_cons_of_mem _ member)
    simp only [List.map_cons, emitEach, List.length_append, List.countP_cons, others]
    rw [emission, each child List.mem_cons_self]
    omega

theorem length_innerWith {node : RouteNode}
    (each : ∀ child ∈ node.children, ∀ cache location,
      (ofNodeWith cache location false child).1.length = if child.holdsPage then 1 else 0)
    (cache : RankCache) (location : List String) :
    (innerWith cache location node).length =
      node.pages.length + node.children.countP holdsPage := by
  have sorted := RankCache.sortedChildren_perm cache location node
  have below := length_emitEach fun child member => each child (sorted.subset member)
  rw [innerWith, List.length_append, List.length_map, sortedPages, List.length_mergeSort, below,
    sorted.countP_eq]

theorem length_pages_add_countP_eq_zero_iff (node : RouteNode) :
    node.pages.length + node.children.countP holdsPage = 0 ↔ node.holdsPage = false := by
  rw [holdsPage_eq, Bool.or_eq_false_iff, Nat.add_eq_zero_iff, List.length_eq_zero_iff,
    List.countP_eq_zero, List.any_eq_false, Bool.not_eq_false', List.isEmpty_iff]

theorem length_ofNodeWith_false (node : RouteNode) (cache : RankCache) (location : List String) :
    (ofNodeWith cache location false node).1.length = if node.holdsPage then 1 else 0 := by
  induction node using childrenFirst generalizing cache location with
  | step token layout pages children ih =>
    have empty := length_pages_add_countP_eq_zero_iff ⟨token, layout, pages, children⟩
    rw [ofNodeWith_eq_enclose, length_enclose, length_innerWith ih]
    cases holds : holdsPage ⟨token, layout, pages, children⟩ with
    | true =>
      rw [if_neg fun none => by simp [empty.1 none] at holds]
      simp
    | false => exact if_pos (empty.2 holds)

theorem ofNodeWith_eq_nil_iff (cache : RankCache) (location : List String) (isRoot : Bool)
    (node : RouteNode) :
    (ofNodeWith cache location isRoot node).1 = [] ↔ node.holdsPage = false := by
  rw [ofNodeWith_eq_enclose, enclose_eq_nil_iff, ← List.length_eq_zero_iff,
    length_innerWith fun child _ => length_ofNodeWith_false child,
    length_pages_add_countP_eq_zero_iff]

theorem length_ofNodeWith {node : RouteNode} (holds : node.holdsPage = true) (cache : RankCache)
    (location : List String) (isRoot : Bool) :
    (ofNodeWith cache location isRoot node).1.length =
      if isRoot = true ∧ node.layout = none then
        node.pages.length + node.children.countP holdsPage
      else 1 := by
  have empty := length_pages_add_countP_eq_zero_iff node
  rw [ofNodeWith_eq_enclose, length_enclose, length_innerWith fun child _ => length_ofNodeWith_false child]
  exact if_neg fun none => by simp [empty.1 none] at holds

theorem ofRoot_pruned {root : RouteNode} (distinct : root.Distinct) :
    ofRoot root.pruned = ofRoot root := by
  rw [ofRoot_eq distinct, ofRoot_eq (distinct_pruned distinct), ofNode_true_eq, ofNode_true_eq,
    pruned_pruned]

/-- A node declares something exactly if some node of its walk has a page, whatever the cache
answers. A directory then declares one element, and so does a root with a layout; a root without one
declares its pages and one element for each child with a page below it. Where siblings differ, the
tree without the subtrees that have no page has the same declarations. -/
theorem declarations_of_walk (node : RouteNode) (cache : RankCache) (location : List String)
    (isRoot : Bool) :
    let emitted := (ofNodeWith cache location isRoot node).1
    let paged (node : RouteNode) : Bool := node.walk.any fun found => !found.pages.isEmpty
    (emitted = [] ↔ ∀ found ∈ node.walk, found.pages = []) ∧
    ((∃ found ∈ node.walk, found.pages ≠ []) →
      emitted.length =
        if isRoot = true ∧ node.layout = none then
          node.pages.length + (node.children.filter paged).length
        else 1) ∧
    (node.Distinct → ofRoot node.pruned = ofRoot node) := by
  intro emitted paged
  refine ⟨?_, fun some => ?_, ofRoot_pruned⟩
  · rw [ofNodeWith_eq_nil_iff, ← Bool.not_eq_true, holdsPage_iff]
    simp
  · have below : (node.children.filter paged).length = node.children.countP holdsPage := by
      rw [List.countP_eq_length_filter, show paged = holdsPage from funext any_walk_eq_holdsPage]
    rw [length_ofNodeWith ((holdsPage_iff node).2 some), below]

/-- A root without a layout, beside a directory that has nothing but one. -/
theorem declarations_of_walk_beside_layout :
    let root := (RouteTree.ofFiles Path.root (Path.ofString "/p")
      (["/p/about.tsx", "/p/a/layout.tsx", "/p/docs/intro.tsx"].map Path.ofString)).root
    root.children.length = 2 ∧ root.pruned.children.length = 1 ∧
      (∃ found ∈ root.walk, found.pages ≠ []) ∧ (ofNodeWith [] [] true root).1.length = 2 ∧
      root.Distinct ∧ ofRoot root.pruned = ofRoot root := by
  intro root
  have page : ∃ found ∈ root.walk, found.pages ≠ [] :=
    ⟨root, mem_walk_self root, by decide +kernel⟩
  have distinct : root.Distinct := RouteTree.distinct_ofFiles _ _ _
  obtain ⟨_, counted, pruned⟩ := declarations_of_walk root [] [] true
  exact ⟨by decide +kernel, by decide +kernel, page, (counted page).trans (by decide +kernel),
    distinct, pruned distinct⟩

end Declaration

end PageRoutes
