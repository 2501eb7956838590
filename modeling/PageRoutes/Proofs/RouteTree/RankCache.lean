import PageRoutes.Proofs.RouteTree.StableOrder

/-! A rank cache answers the ranks of a tree that does not change.

A cache is coherent with a tree when all that it remembers is the rank of the node to which
the way leads. Every question keeps it coherent, so the declarations emitted through one cache
are those emitted with every rank computed anew.
-/

set_option autoImplicit false

namespace PageRoutes

open RouteNode

namespace RankCache

/-- What the cache remembers are ranks of nodes of the tree. -/
def Coherent (root : RouteNode) (cache : RankCache) : Prop :=
  ∀ way rank, cache.lookup way = some rank →
    ∃ node, root.get? way = some node ∧ rank = node.specificity

theorem coherent_nil (root : RouteNode) : Coherent root [] :=
  fun _ _ found => nomatch found

theorem Coherent.remember {root node : RouteNode} {cache : RankCache} {location : List String}
    (coherent : Coherent root cache) (reached : root.get? location = some node) :
    Coherent root ((location, node.specificity) :: cache) := by
  intro way rank found
  rw [List.lookup_cons] at found
  by_cases here : way = location
  · subst here
    exact ⟨node, reached, by simpa using found.symm⟩
  · simp only [beq_eq_false_iff_ne.2 here] at found
    exact coherent way rank found

def ChildrenAt (root : RouteNode) (location : List String) (children : List RouteNode) : Prop :=
  ∀ child ∈ children, root.get? (location ++ [child.token]) = some child

theorem childrenAt {root node : RouteNode} {location : List String}
    (reached : root.get? location = some node) (distinct : node.Distinct) :
    ChildrenAt root location node.children :=
  fun _ member => get?_concat reached (child?_token distinct.tokens member)

/-- A question about a node has the node's rank as its answer and keeps the cache coherent. -/
def Answers (root : RouteNode) (location : List String) (node : RouteNode) : Prop :=
  ∀ cache, Coherent root cache →
    (specificity cache location node).1 = node.specificity ∧
      Coherent root (specificity cache location node).2

theorem worstOf_eq {root : RouteNode} {location : List String} {children : List RouteNode}
    (answers : ∀ child ∈ children, Answers root (location ++ [child.token]) child)
    {cache : RankCache} (coherent : Coherent root cache) :
    (worstOf cache location children).1 = specificityAll children ∧
      Coherent root (worstOf cache location children).2 := by
  induction children generalizing cache with
  | nil => exact ⟨rfl, coherent⟩
  | cons child rest ih =>
    obtain ⟨first, afterFirst⟩ := answers child List.mem_cons_self cache coherent
    obtain ⟨others, after⟩ :=
      ih (fun other member => answers other (List.mem_cons_of_mem _ member)) afterFirst
    refine ⟨?_, after⟩
    rw [specificityAll, ← first, ← others]
    rfl

theorem answers_specificity {root node : RouteNode} {location : List String}
    (reached : root.get? location = some node) (distinct : node.Distinct) :
    Answers root location node := by
  -- A remembered rank is right by coherence; any other is put together from those below.
  induction node using childrenFirst generalizing location with
  | step token layout pages children ih =>
    intro cache coherent
    unfold specificity
    cases found : cache.lookup location with
    | some known =>
      obtain ⟨node, same, rank⟩ := coherent location known found
      rw [reached] at same
      cases same
      exact ⟨rank, coherent⟩
    | none =>
      have answers : ∀ child ∈ children, Answers root (location ++ [child.token]) child :=
        fun child member => ih child member (childrenAt reached distinct child member)
          (distinct.child member)
      obtain ⟨below, after⟩ := worstOf_eq answers coherent
      have computed : (Page.worstRank pages).worse (worstOf cache location children).1 =
          RouteNode.specificity ⟨token, layout, pages, children⟩ := by
        rw [below, RouteNode.specificity]
      refine ⟨computed, ?_⟩
      change Coherent root ((location, (Page.worstRank pages).worse
        (worstOf cache location children).1) :: (worstOf cache location children).2)
      rw [computed]
      exact after.remember reached

theorem rankChildren_eq {root : RouteNode} {location : List String} {children : List RouteNode}
    (answers : ∀ child ∈ children, Answers root (location ++ [child.token]) child)
    {cache : RankCache} (coherent : Coherent root cache) :
    (rankChildren cache location children).1 = children.map sibling ∧
      Coherent root (rankChildren cache location children).2 := by
  induction children generalizing cache with
  | nil => exact ⟨rfl, coherent⟩
  | cons child rest ih =>
    obtain ⟨first, afterFirst⟩ := answers child List.mem_cons_self cache coherent
    obtain ⟨others, after⟩ :=
      ih (fun other member => answers other (List.mem_cons_of_mem _ member)) afterFirst
    refine ⟨?_, after⟩
    rw [List.map_cons, sibling, ← first, ← others]
    rfl

theorem sortedChildren_eq {root node : RouteNode} {location : List String}
    (reached : root.get? location = some node) (distinct : node.Distinct) {cache : RankCache}
    (coherent : Coherent root cache) :
    (sortedChildren cache location node).1 = node.sortedChildren ∧
      Coherent root (sortedChildren cache location node).2 := by
  have standing := childrenAt reached distinct
  obtain ⟨ranked, after⟩ := rankChildren_eq
    (fun child member => answers_specificity (standing child member) (distinct.child member))
    coherent
  refine ⟨?_, after⟩
  change Sibling.inOrder (rankChildren cache location node.children).1 = node.sortedChildren
  rw [ranked, RouteNode.sortedChildren_eq]

theorem map_value_rankChildren (cache : RankCache) (location : List String)
    (children : List RouteNode) :
    (rankChildren cache location children).1.map Sibling.value = children := by
  induction children generalizing cache with
  | nil => rfl
  | cons child rest ih => exact congrArg (child :: ·) (ih _)

/-- Whatever the cache answers, each child stands once in the order. -/
theorem sortedChildren_perm (cache : RankCache) (location : List String) (node : RouteNode) :
    (sortedChildren cache location node).1.Perm node.children := by
  have sorted := Sibling.inOrder_perm (rankChildren cache location node.children).1
  rwa [map_value_rankChildren] at sorted

end RankCache

namespace Declaration

open RankCache

def emission (location : List String) (child : RouteNode) : Emission := fun cache =>
  ofNodeWith cache (location ++ [child.token]) false child

theorem emissions_eq (location : List String) (children : List RouteNode) :
    emissions location children = children.map (emission location) := by
  induction children with
  | nil => rfl
  | cons child rest ih => exact congrArg (emission location child :: ·) ih

/-- The children of a node are put in order with one cache, and then emitted with what it remembers
by then. -/
theorem ofNodeWith_eq (cache : RankCache) (location : List String) (isRoot : Bool)
    (node : RouteNode) :
    let sorted := sortedChildren cache location node
    let below := emitEach (sorted.1.map (emission location)) sorted.2
    ofNodeWith cache location isRoot node =
      (enclose isRoot node.token node.layout
        (node.sortedPages.map Page.declaration ++ below.1), below.2) := by
  intro sorted below
  obtain ⟨token, layout, pages, children⟩ := node
  -- The ranks are paired with emissions in the place of the children, which sorting does not see.
  have siblings : (rankChildren cache location children).1.zipWith
      (fun child emission => (⟨child.rank, child.token, emission⟩ : Sibling Emission))
      (emissions location children) =
      (rankChildren cache location children).1.map (Sibling.mapValue (emission location)) := by
    have values := congrArg (List.map (emission location))
      (map_value_rankChildren cache location children)
    rw [List.map_map] at values
    rw [emissions_eq, ← values, List.zipWith_map_right, List.zipWith_self]
    rfl
  rw [ofNodeWith]
  simp only [siblings, Sibling.inOrder_mapValue]
  rfl

/-- Emission through a coherent cache is emission with every rank computed anew. -/
def Emits (root : RouteNode) (location : List String) (node : RouteNode) : Prop :=
  ∀ cache isRoot, Coherent root cache →
    (ofNodeWith cache location isRoot node).1 = ofNode isRoot node ∧
      Coherent root (ofNodeWith cache location isRoot node).2

theorem emitEach_eq {root : RouteNode} {location : List String} {children : List RouteNode}
    (emits : ∀ child ∈ children, Emits root (location ++ [child.token]) child)
    {cache : RankCache} (coherent : Coherent root cache) :
    (emitEach (children.map (emission location)) cache).1 = children.flatMap (ofNode false) ∧
      Coherent root (emitEach (children.map (emission location)) cache).2 := by
  induction children generalizing cache with
  | nil => exact ⟨rfl, coherent⟩
  | cons child rest ih =>
    obtain ⟨inner, emitted⟩ := emits child List.mem_cons_self cache false coherent
    obtain ⟨others, after⟩ :=
      ih (fun other member => emits other (List.mem_cons_of_mem _ member)) emitted
    refine ⟨?_, after⟩
    rw [List.flatMap_cons, ← inner, ← others]
    rfl

theorem flatten_inOrder_ofChildren (node : RouteNode) :
    (Sibling.inOrder (ofChildren node.children)).flatten =
      (node.sortedChildren.map (ofNode false)).flatten := by
  have siblings : ofChildren node.children =
      (node.children.map sibling).map (Sibling.mapValue (ofNode false)) := by
    rw [ofChildren_eq, List.map_map]
    rfl
  rw [siblings, Sibling.inOrder_mapValue, RouteNode.sortedChildren_eq]

theorem ofNode_eq_sorted (isRoot : Bool) (node : RouteNode) :
    ofNode isRoot node = enclose isRoot node.token node.layout
      (node.sortedPages.map Page.declaration ++ node.sortedChildren.flatMap (ofNode false)) := by
  obtain ⟨token, layout, pages, children⟩ := node
  rw [ofNode, flatten_inOrder_ofChildren ⟨token, layout, pages, children⟩, List.flatMap_def]
  rfl

theorem emits_ofNode {root node : RouteNode} {location : List String}
    (reached : root.get? location = some node) (distinct : node.Distinct) :
    Emits root location node := by
  induction node using childrenFirst generalizing location with
  | step token layout pages children ih =>
    intro cache isRoot coherent
    have standing := childrenAt reached distinct
    obtain ⟨order, between⟩ := RankCache.sortedChildren_eq reached distinct coherent
    -- All ranks are asked before, so what the children are emitted with is coherent as well.
    obtain ⟨below, after⟩ := emitEach_eq
      (fun child member =>
        have listed := mem_sortedChildren.1 member
        ih child listed (standing child listed) (distinct.child listed)) between
    rw [← order] at below after
    rw [ofNodeWith_eq, ofNode_eq_sorted, ← order]
    exact ⟨by rw [below], after⟩

/-- One cache for the whole tree changes nothing in its declarations. -/
theorem ofRoot_eq {root : RouteNode} (distinct : root.Distinct) : ofRoot root = ofNode true root :=
  (emits_ofNode (get?_nil root) distinct [] true (coherent_nil root)).1

end Declaration

end PageRoutes
