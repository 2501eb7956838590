import PageRoutes.Proofs.Declaration.Enclosure
import PageRoutes.Proofs.Declaration.Written
import PageRoutes.Proofs.Route.Characters
import PageRoutes.Proofs.RouteTree.StableOrder

/-! The written declarations of a route tree give its pruned tree back.

The second side of the declarations of a tree is read off the tree without its subtrees that
hold no page: there every child is a group, and only the root may go without an element of its
own. Main statement: for files whose names hold neither a double quote nor a line boundary,
reading the joined declarations line by line gives exactly this.
-/

set_option autoImplicit false

namespace PageRoutes

namespace RouteNode

/-- The pages of a node in order, and a group for each of its children in order. -/
def contents (node : RouteNode) : List Declaration :=
  node.sortedPages.map Page.declaration ++
    node.sortedChildren.attach.map fun child =>
      .group child.1.token (child.1.layout.map Page.component) (contents child.1)
termination_by sizeOf node
decreasing_by
  obtain ⟨token, layout, pages, children⟩ := node
  have listed := List.sizeOf_lt_of_mem (mem_sortedChildren.1 child.2)
  simp only [RouteNode.mk.sizeOf_spec]
  simp only at listed
  omega

theorem contents_eq (node : RouteNode) :
    node.contents = node.sortedPages.map Page.declaration ++
      node.sortedChildren.map fun child =>
        .group child.token (child.layout.map Page.component) child.contents := by
  have groups := List.attach_map_val (l := node.sortedChildren) (f := fun child =>
    Declaration.group child.token (child.layout.map Page.component) child.contents)
  rw [contents, groups]

/-- What a whole tree reads as: nothing without a page, and else the contents of the root,
inside an element of the root exactly if the root has a layout. -/
def forest (root : RouteNode) : List Declaration :=
  if root.holdsPage then
    match root.layout with
    | some layout => [.group rootToken (some layout.component) root.contents]
    | none => root.contents
  else []

theorem holdsPage_eq (node : RouteNode) :
    node.holdsPage = (!node.pages.isEmpty || node.children.any holdsPage) := by
  obtain ⟨token, layout, pages, children⟩ := node
  rw [holdsPage, anyHoldsPage_eq]

theorem mergeSort_eq_nil_iff {α : Type} {le : α → α → Bool} {items : List α} :
    items.mergeSort le = [] ↔ items = [] := by
  rw [← List.length_eq_zero_iff, List.length_mergeSort, List.length_eq_zero_iff]

theorem contents_pruned_eq_nil_iff (node : RouteNode) :
    node.pruned.contents = [] ↔ node.holdsPage = false := by
  rw [contents_eq, sortedChildren_pruned, sortedPages, pages_pruned, holdsPage_eq,
    List.append_eq_nil_iff, List.map_eq_nil_iff, List.map_eq_nil_iff, List.map_eq_nil_iff,
    mergeSort_eq_nil_iff, List.filter_eq_nil_iff, Bool.or_eq_false_iff, List.any_eq_false,
    Bool.not_eq_false', List.isEmpty_iff]
  exact and_congr_right fun _ => forall_congr' fun child => by rw [mem_sortedChildren]

end RouteNode

namespace Declaration

open RouteNode RouteTree

theorem flatten_map_ite {α β : Type} (holds : α → Bool) (write : α → β) (items : List α) :
    (items.map fun item => if holds item then [write item] else []).flatten =
      (items.filter holds).map write := by
  induction items with
  | nil => rfl
  | cons item rest ih =>
    by_cases kept : holds item = true
    · rw [List.map_cons, if_pos kept, List.flatten_cons, ih, List.filter_cons_of_pos kept]
      rfl
    · rw [List.map_cons, if_neg kept, List.flatten_cons, ih, List.filter_cons_of_neg kept]
      rfl

theorem innerOf_eq (node : RouteNode)
    (below : ∀ child ∈ node.children, ofNode false child =
      if child.holdsPage then
        [.group child.token (child.layout.map Page.component) child.pruned.contents]
      else []) : innerOf node.pages node.children = node.pruned.contents := by
  have groups : node.sortedChildren.map (ofNode false) =
      node.sortedChildren.map fun child => if child.holdsPage then
        [.group child.token (child.layout.map Page.component) child.pruned.contents]
      else [] :=
    List.map_congr_left fun child member => below child (mem_sortedChildren.1 member)
  rw [innerOf, flatten_inOrder_ofChildren, groups, flatten_map_ite, contents_eq,
    sortedChildren_pruned, List.map_map, sortedPages, pages_pruned]
  congr 1
  apply List.map_congr_left
  intro child _
  simp

theorem ofNode_false_eq (node : RouteNode) :
    ofNode false node =
      if node.holdsPage then
        [.group node.token (node.layout.map Page.component) node.pruned.contents]
      else [] := by
  induction node using childrenFirst with
  | step token layout pages children ih =>
    have inner := innerOf_eq ⟨token, layout, pages, children⟩ ih
    have empty := contents_pruned_eq_nil_iff ⟨token, layout, pages, children⟩
    rw [ofNode_eq, inner]
    unfold enclose
    cases holds : holdsPage ⟨token, layout, pages, children⟩ with
    | true =>
      have filled : ¬ (RouteNode.pruned ⟨token, layout, pages, children⟩).contents = [] :=
        fun none => by simp [empty.1 none] at holds
      rw [if_neg (by simpa using filled), if_pos rfl]
      cases layout <;> rfl
    | false =>
      rw [if_pos (by simpa using empty.2 holds)]
      rfl

theorem ofNode_true_eq (root : RouteNode) : ofNode true root = root.pruned.forest := by
  have inner := innerOf_eq root fun child _ => ofNode_false_eq child
  have empty := contents_pruned_eq_nil_iff root
  rw [ofNode_eq, inner, forest, holdsPage_pruned, layout_pruned]
  unfold enclose
  cases holds : root.holdsPage with
  | true =>
    have filled : ¬ root.pruned.contents = [] := fun none => by simp [empty.1 none] at holds
    rw [if_neg (by simpa using filled), if_pos rfl]
    cases root.layout <;> rfl
  | false =>
    rw [if_pos (by simpa using empty.2 holds)]
    rfl

structure IsLegible (node : RouteNode) : Prop where
  token : IsQuotable node.token
  layout : ∀ layout ∈ node.layout, IsWord layout.component
  pages : ∀ page ∈ node.pages, IsQuotable (Route.token page.name) ∧ IsWord page.component

theorem legible_declaration {page : Page} (path : IsQuotable (Route.token page.name))
    (word : IsWord page.component) : page.declaration.Legible := by
  unfold Page.declaration
  split
  · exact .index word
  · exact .page path word

theorem legible_contents_pruned {node : RouteNode}
    (legible : ∀ found ∈ node.walk, IsLegible found) :
    ∀ declaration ∈ node.pruned.contents, declaration.Legible := by
  induction node using childrenFirst with
  | step token layout pages children ih =>
    intro declaration member
    rw [contents_eq, List.mem_append, sortedPages, pages_pruned, sortedChildren_pruned,
      List.mem_map, List.mem_map] at member
    rcases member with ⟨page, sorted, rfl⟩ | ⟨pruned, sorted, rfl⟩
    · have own := (legible _ (mem_walk_self _)).pages page (List.mem_mergeSort.1 sorted)
      exact legible_declaration own.1 own.2
    · obtain ⟨child, kept, rfl⟩ := List.mem_map.1 sorted
      have listed : child ∈ children := mem_sortedChildren.1 (List.mem_filter.1 kept).1
      have inside : ∀ found ∈ child.walk, IsLegible found := fun found below =>
        legible found (mem_walk_child listed below)
      have own := inside child (mem_walk_self child)
      rw [token_pruned, layout_pruned]
      apply Legible.group own.token ?_ (ih child listed inside)
      intro component wraps
      obtain ⟨wrapper, given, rfl⟩ := Option.map_eq_some_iff.1 wraps
      exact own.layout wrapper given

theorem legible_forest_pruned {root : RouteNode}
    (legible : ∀ found ∈ root.walk, IsLegible found) :
    ∀ declaration ∈ root.pruned.forest, declaration.Legible := by
  have inner := legible_contents_pruned legible
  unfold forest
  split
  · rw [layout_pruned]
    cases given : root.layout with
    | none => exact inner
    | some layout =>
      have word := (legible root (mem_walk_self root)).layout layout given
      intro declaration member
      rw [List.mem_singleton.1 member]
      apply Legible.group (by decide) ?_ inner
      intro component wraps
      exact Option.some.inj wraps ▸ word
  · intro declaration member
    exact absurd member List.not_mem_nil

theorem isQuotable_token {name : String} (quotable : IsQuotable name) :
    IsQuotable (Route.token name) :=
  Route.forall_mem_token (by decide) quotable

theorem isDigit_of_isLineBoundary {c : Char} (boundary : Text.isLineBoundary c = true) :
    c.isDigit = false := by
  simp only [Text.isLineBoundary, Bool.or_eq_true, Bool.and_eq_true,
    decide_eq_true_eq] at boundary
  simp only [Char.isDigit, Bool.and_eq_false_iff, decide_eq_false_iff_not]
  grind

theorem isWord_identifier (position : Nat) : IsWord (Page.identifier position) := by
  have marks : IsWhole "Page" := by decide
  intro c member
  constructor
  · rintro rfl
    exact Page.not_mem_identifier (by decide) (by decide) position member
  · by_contra boundary
    rw [Bool.not_eq_false] at boundary
    have letters : c ∉ "Page".toList := fun letter => by simp [marks c letter] at boundary
    exact Page.not_mem_identifier letters (isDigit_of_isLineBoundary boundary) position member

/-- A source below the pages directory whose names can all be written between double quotes. -/
def HasQuotableNames (pagesDirectory source : Path) : Prop :=
  ∃ directories name, source = pagesDirectory.below (directories ++ [name]) ∧
    ∀ part ∈ directories ++ [name], IsQuotable part.text

variable {workingDirectory pagesDirectory : Path}

theorem HasQuotableNames.name {page : Page}
    (quotable : HasQuotableNames pagesDirectory page.source) : IsQuotable page.name := by
  obtain ⟨directories, name, stands, parts⟩ := quotable
  rw [Page.name, stands, Path.fileName_below_concat]
  exact parts name (by simp)

theorem HasQuotableNames.tokens {page : Page}
    (quotable : HasQuotableNames pagesDirectory page.source) :
    ∀ token ∈ tokensOf workingDirectory pagesDirectory page, IsQuotable token := by
  obtain ⟨directories, name, stands, parts⟩ := quotable
  intro token member
  rw [tokensOf, stands] at member
  obtain ⟨directory, listed, rfl⟩ := List.mem_map.1 member
  rcases Page.mem_directories_below listed with rfl | own
  · exact isQuotable_token (by decide)
  · exact isQuotable_token (parts directory (List.mem_append_left _ own))

theorem isQuotable_token_of_get? {files : List Page}
    (quotable : ∀ page ∈ files, HasQuotableNames pagesDirectory page.source) {way : List String}
    {node : RouteNode}
    (reached : (grown workingDirectory pagesDirectory files).get? way = some node) :
    IsQuotable node.token := by
  rcases token_of_get?_grown reached with root | ⟨page, listed, token⟩
  · rw [root]
    decide
  · exact (quotable page listed).tokens node.token token

theorem isLegible_of_mem_walk {sources : List Path}
    (quotable : ∀ source ∈ sources, HasQuotableNames pagesDirectory source) {node : RouteNode}
    (member : node ∈ (ofFiles workingDirectory pagesDirectory sources).root.walk) :
    IsLegible node := by
  have named : ∀ page ∈ Page.number sources,
      HasQuotableNames pagesDirectory page.source ∧ IsWord page.component := by
    intro page listed
    obtain ⟨source, position, identified⟩ := Page.exists_identifier_of_mem_number listed
    exact ⟨quotable page.source source, identified ▸ isWord_identifier position⟩
  obtain ⟨way, reached⟩ :=
    exists_get?_of_mem_walk (distinct_ofFiles workingDirectory pagesDirectory sources) member
  have described := describes_slot_grown workingDirectory pagesDirectory (Page.number sources) way
  have slot : (grown workingDirectory pagesDirectory (Page.number sources)).slot way = node :=
    slot_of_get? reached
  rw [slot] at described
  constructor
  · apply isQuotable_token_of_get? _ reached
    intro page listed
    exact (named page listed).1
  · intro layout given
    rw [described.layout, layoutAt] at given
    have listed := List.mem_of_getLast? (Option.mem_def.1 given)
    simp only [filesAt, List.mem_filter] at listed
    exact (named layout listed.1.1).2
  · intro page listed
    rw [described.pages] at listed
    have own := named page (mem_pagesAt listed).1
    exact ⟨isQuotable_token own.1.name, own.2⟩

variable (workingDirectory pagesDirectory)

/-- Reading the joined declarations of a tree gives the tree back without what holds no page. -/
theorem readText?_ofFiles {sources : List Path}
    (quotable : ∀ source ∈ sources, HasQuotableNames pagesDirectory source) :
    let root := (ofFiles workingDirectory pagesDirectory sources).root
    readText? ("\n".intercalate ((ofRoot root).map render)) = some root.pruned.forest := by
  intro root
  have distinct := distinct_ofFiles workingDirectory pagesDirectory sources
  have legible : ∀ found ∈ root.walk, IsLegible found := fun found member =>
    isLegible_of_mem_walk quotable member
  rw [ofRoot_eq distinct, ofNode_true_eq]
  exact readText?_intercalate_render (legible_forest_pruned legible)

/-- A page and a parameter with a layout and an index, beside a directory with a layout only. -/
theorem readText?_of_layout_without_pages :
    let pages := Path.ofString "/p"
    let sources := ["/p/about.tsx", "/p/[id]/layout.tsx", "/p/[id]/index.tsx",
      "/p/empty/layout.tsx"].map Path.ofString
    (∀ source ∈ sources, HasQuotableNames pages source) ∧
    readText? ("\n".intercalate ((ofRoot (ofFiles Path.root pages sources).root).map render)) =
      some [.page "about" "Page0", .group ":id" (some "Page1") [.index "Page2"]] := by
  intro pages sources
  have quotable : ∀ source ∈ sources, HasQuotableNames pages source := by
    simp only [sources, List.map_cons, List.map_nil, List.forall_mem_cons]
    refine ⟨⟨[], ⟨"about.tsx", by decide, by decide, by decide⟩, ?_⟩,
      ⟨[⟨"[id]", by decide, by decide, by decide⟩],
        ⟨"layout.tsx", by decide, by decide, by decide⟩, ?_⟩,
      ⟨[⟨"[id]", by decide, by decide, by decide⟩],
        ⟨"index.tsx", by decide, by decide, by decide⟩, ?_⟩,
      ⟨[⟨"empty", by decide, by decide, by decide⟩],
        ⟨"layout.tsx", by decide, by decide, by decide⟩, ?_⟩, by simp⟩
    all_goals decide +kernel
  have grows : (ofFiles Path.root pages sources).root =
      ⟨"/", none, [⟨Path.ofString "/p/about.tsx", "Page0"⟩],
        [⟨":id", some ⟨Path.ofString "/p/[id]/layout.tsx", "Page1"⟩,
          [⟨Path.ofString "/p/[id]/index.tsx", "Page2"⟩], []⟩,
        ⟨"empty", some ⟨Path.ofString "/p/empty/layout.tsx", "Page3"⟩, [], []⟩]⟩ := by
    with_unfolding_all rfl
  have about : Page.declaration ⟨Path.ofString "/p/about.tsx", "Page0"⟩ =
      .page "about" "Page0" := by
    with_unfolding_all rfl
  have index : Page.declaration ⟨Path.ofString "/p/[id]/index.tsx", "Page2"⟩ =
      .index "Page2" := by
    with_unfolding_all rfl
  have single : ∀ token layout page,
      contents ⟨token, layout, [page], []⟩ = [page.declaration] := by
    intro token layout page
    rw [contents_eq]
    simp [sortedPages, sortedChildren_eq, Sibling.inOrder]
  refine ⟨quotable, (readText?_ofFiles Path.root pages quotable).trans ?_⟩
  have kept : (ofFiles Path.root pages sources).root.pruned =
      ⟨"/", none, [⟨Path.ofString "/p/about.tsx", "Page0"⟩],
        [⟨":id", some ⟨Path.ofString "/p/[id]/layout.tsx", "Page1"⟩,
          [⟨Path.ofString "/p/[id]/index.tsx", "Page2"⟩], []⟩]⟩ := by
    simp [grows, pruned, prunedAll_eq, holdsPage, anyHoldsPage_eq]
  rw [kept, forest, if_pos (by simp [holdsPage]), contents_eq]
  simp [sortedPages, sortedChildren_eq, Sibling.inOrder, sibling, single, about, index]

end Declaration

end PageRoutes
