import PageRoutes.Proofs.RouteTree.Arranged

/-! The rank of a node, read off its walk.

The rank that a node has among its siblings is computed from the ranks of its children. It is also
the worst level of any page that the walk of the node comes to, so the order of siblings is a
matter of the pages below them alone.
-/

set_option autoImplicit false

namespace PageRoutes

namespace Page

/-- The worst level of some pages; without a page it is the level of an index. -/
def worstLevel (pages : List Page) : Nat := (pages.map fun page => page.rank.level).foldr max 0

@[simp] theorem worstLevel_nil : worstLevel [] = 0 := rfl

@[simp] theorem worstLevel_cons (page : Page) (rest : List Page) :
    worstLevel (page :: rest) = max page.rank.level (worstLevel rest) := rfl

theorem worstLevel_append (first second : List Page) :
    worstLevel (first ++ second) = max (worstLevel first) (worstLevel second) := by
  induction first with
  | nil => simp
  | cons page rest ih => rw [List.cons_append, worstLevel_cons, ih, worstLevel_cons, Nat.max_assoc]

theorem le_worstLevel {pages : List Page} {page : Page} (member : page ∈ pages) :
    page.rank.level ≤ worstLevel pages := by
  induction pages with
  | nil => cases member
  | cons first rest ih =>
    rw [worstLevel_cons]
    rcases List.mem_cons.1 member with rfl | later
    · exact Nat.le_max_left _ _
    · exact Nat.le_trans (ih later) (Nat.le_max_right _ _)

theorem exists_of_worstLevel_pos {pages : List Page} (bad : 0 < worstLevel pages) :
    ∃ page ∈ pages, page.rank.level = worstLevel pages := by
  induction pages with
  | nil => cases bad
  | cons first rest ih =>
    rw [worstLevel_cons] at bad ⊢
    by_cases worse : worstLevel rest ≤ first.rank.level
    · exact ⟨first, List.mem_cons_self, (Nat.max_eq_left worse).symm⟩
    · have below : 0 < worstLevel rest := by omega
      obtain ⟨page, member, same⟩ := ih below
      exact ⟨page, List.mem_cons_of_mem _ member, by omega⟩

theorem level_worstRank (pages : List Page) : (worstRank pages).level = worstLevel pages := by
  -- The rank so far is at least that of an index, so it can be any rank in the induction.
  have run : ∀ worst : Route.Rank,
      (pages.foldl (fun worst page => worst.worse page.rank) worst).level =
        max worst.level (worstLevel pages) := by
    induction pages with
    | nil => simp
    | cons page rest ih =>
      intro worst
      rw [List.foldl_cons, ih, Route.Rank.level_worse, worstLevel_cons]
      exact Nat.max_assoc _ _ _
  rw [worstRank, run]
  exact Nat.zero_max _

end Page

namespace RouteNode

def walkPages (node : RouteNode) : List Page := node.walk.flatMap pages

def walkLevel (node : RouteNode) : Nat := Page.worstLevel node.walkPages

theorem walkPages_eq (node : RouteNode) :
    node.walkPages = node.pages ++ node.children.flatMap walkPages := by
  obtain ⟨token, layout, pages, children⟩ := node
  rw [walkPages, walk, walkAll_eq, List.flatMap_cons, List.flatMap_assoc]
  rfl

/-- The rank of a node is the worst level of the pages in its walk. -/
theorem level_specificity (node : RouteNode) : node.specificity.level = node.walkLevel := by
  induction node using childrenFirst with
  | step token layout pages children ih =>
    have below : (specificityAll children).level =
        Page.worstLevel (children.flatMap walkPages) := by
      induction children with
      | nil => rfl
      | cons child rest others =>
        rw [specificityAll, Route.Rank.level_worse, ih child List.mem_cons_self,
          others fun other member => ih other (List.mem_cons_of_mem _ member), List.flatMap_cons,
          Page.worstLevel_append]
        rfl
    rw [specificity, Route.Rank.level_worse, Page.level_worstRank, below, walkLevel, walkPages_eq,
      Page.worstLevel_append]

/-- The order of siblings by the worst level of the pages below them, and the longer token first. -/
def before (first second : RouteNode) : Bool :=
  first.walkLevel < second.walkLevel ||
    (first.walkLevel == second.walkLevel && second.token.length ≤ first.token.length)

theorem before_sibling (first second : RouteNode) :
    first.sibling.before second.sibling = first.before second := by
  rw [Sibling.before, before, ← level_specificity, ← level_specificity]
  rfl

theorem sortedChildren_eq_mergeSort (node : RouteNode) :
    node.sortedChildren = node.children.mergeSort before := by
  have sorted : (node.children.mergeSort before).map sibling =
      (node.children.map sibling).mergeSort Sibling.before :=
    List.map_mergeSort fun first _ second _ => (before_sibling first second).symm
  have values : Sibling.value ∘ sibling = id := rfl
  rw [sortedChildren_eq, Sibling.inOrder, ← sorted, List.map_map, values, List.map_id]

theorem before_iff (first second : RouteNode) :
    first.before second = true ↔ first.walkLevel < second.walkLevel ∨
      first.walkLevel = second.walkLevel ∧ second.token.length ≤ first.token.length := by
  simp [before]

theorem arranged_sortedChildren (node : RouteNode) :
    Arranged walkLevel (fun child => child.token.length) node.children node.sortedChildren := by
  rw [sortedChildren_eq_mergeSort]
  exact arranged_mergeSort before_iff node.children

theorem arranged_sortedPages (node : RouteNode) :
    Arranged (fun page => page.rank.level) (fun page => page.source.toString.length)
      node.pages node.sortedPages :=
  arranged_mergeSort (fun first second => by simp [Page.before]) node.pages

end RouteNode

end PageRoutes
