import PageRoutes.Proofs.RouteTree.Asking
import PageRoutes.Proofs.RouteTree.Growth
import PageRoutes.Proofs.RouteTree.Queries

/-! Ranks before and after a change of the tree.

The rank of a node follows from the pages in it and from the ranks of its children. So when one node
is changed, its pages before and after compare as do the ranks of all the nodes above it, and those
that a cache answers for them.
-/

set_option autoImplicit false

namespace PageRoutes

namespace Page

theorem rank_of_source {first second : Page} (same : first.source = second.source) :
    first.rank = second.rank := by
  rw [rank, rank, name, name, same]

theorem worstRank_placePage_of_mem {page : Page} {pages : List Page}
    (held : page.source ∈ pages.map source) :
    worstRank (placePage page pages) = worstRank pages := by
  apply Route.Rank.level_injective
  rw [level_worstRank, level_worstRank]
  induction pages with
  | nil => cases held
  | cons other rest ih =>
    by_cases here : other.source = page.source
    · rw [placePage, if_pos here, worstLevel_cons, worstLevel_cons, rank_of_source here]
    · have below : page.source ∈ rest.map source :=
        (List.mem_cons.1 held).resolve_left (Ne.symm here)
      rw [placePage, if_neg here, worstLevel_cons, worstLevel_cons, ih below]

theorem level_worstRank_le_placePage (page : Page) (pages : List Page) :
    (worstRank pages).level ≤ (worstRank (placePage page pages)).level := by
  by_cases held : page.source ∈ pages.map source
  · exact Nat.le_of_eq (congrArg _ (worstRank_placePage_of_mem held).symm)
  · rw [level_worstRank, level_worstRank]
    induction pages with
    | nil => exact Nat.zero_le _
    | cons other rest ih =>
      obtain ⟨here, below⟩ := not_or.1 (fun either => held (List.mem_cons.2 either))
      rw [placePage, if_neg (Ne.symm here), worstLevel_cons, worstLevel_cons]
      have := ih below
      omega

end Page

namespace RouteNode

theorem pages_attach_of_layout {page : Page} (isLayout : page.isLayout = true) (node : RouteNode) :
    (node.attach page).pages = node.pages := by
  rw [attach, if_pos isLayout]

theorem pages_attach_of_page {page : Page} (isPage : page.isLayout = false) (node : RouteNode) :
    (node.attach page).pages = placePage page node.pages := by
  rw [attach, isPage, if_neg Bool.false_ne_true]

/-- A comparison of ranks that holds of the worse of two ranks when it holds of both. -/
structure Comparison (holds : Route.Rank → Route.Rank → Prop) : Prop where
  refl : ∀ rank, holds rank rank
  worse : ∀ {first second other another}, holds first second → holds other another →
    holds (first.worse other) (second.worse another)

theorem slot_append (node : RouteNode) (first second : List String) :
    node.slot (first ++ second) = (node.slot first).slot second := by
  induction first generalizing node with
  | nil => rw [List.nil_append, slot_nil]
  | cons token rest ih => rw [List.cons_append, slot_cons, slot_cons, ih]

theorem comparison_eq : Comparison Eq :=
  ⟨fun _ => rfl, fun first second => by rw [first, second]⟩

theorem comparison_le : Comparison fun first second => first.level ≤ second.level := by
  refine ⟨fun _ => Nat.le_refl _, fun first second => ?_⟩
  rw [Route.Rank.level_worse, Route.Rank.level_worse]
  exact Nat.max_le.2 ⟨Nat.le_trans first (Nat.le_max_left _ _),
    Nat.le_trans second (Nat.le_max_right _ _)⟩

variable {holds : Route.Rank → Route.Rank → Prop}

theorem Comparison.foldr (comparison : Comparison holds) {first second : RouteNode → Route.Rank}
    {children : List RouteNode} (each : ∀ child ∈ children, holds (first child) (second child)) :
    holds (children.foldr (fun child worst => (first child).worse worst) .index)
      (children.foldr (fun child worst => (second child).worse worst) .index) := by
  induction children with
  | nil => exact comparison.refl _
  | cons child rest ih =>
    exact comparison.worse (each child List.mem_cons_self)
      (ih fun other member => each other (List.mem_cons_of_mem _ member))

theorem Comparison.changeChild (comparison : Comparison holds) {rank : RouteNode → Route.Rank}
    {change : RouteNode → RouteNode} {token : String} {children : List RouteNode}
    (changed : ∀ child ∈ children, child.token = token → holds (rank child) (rank (change child)))
    (created : token ∉ children.map RouteNode.token → holds .index (rank (change (empty token)))) :
    holds (children.foldr (fun child worst => (rank child).worse worst) .index)
      ((changeChild token change children).foldr
        (fun child worst => (rank child).worse worst) .index) := by
  induction children with
  | nil =>
    have alone := comparison.worse (created List.not_mem_nil) (comparison.refl .index)
    exact index_worse .index ▸ alone
  | cons child rest ih =>
    by_cases here : child.token = token
    · rw [RouteNode.changeChild, if_pos here]
      exact comparison.worse (changed child List.mem_cons_self here) (comparison.refl _)
    · rw [RouteNode.changeChild, if_neg here]
      refine comparison.worse (comparison.refl _)
        (ih (fun other member => changed other (List.mem_cons_of_mem _ member)) fun missing => ?_)
      refine created fun either => ?_
      exact (List.mem_cons.1 either).elim (fun same => here same.symm) missing

end RouteNode

namespace RankCache

open RouteNode

variable {cache : RankCache} {location : List String}

theorem specificity_nil {root node : RouteNode} (reached : root.get? location = some node)
    (distinct : node.Distinct) : (specificity [] location node).1 = node.specificity :=
  (answers_specificity reached distinct [] (coherent_nil root)).1

theorem specificity_empty (unknown : cache.lookup location = none) (token : String) :
    (specificity cache location (empty token)).1 = .index := by
  rw [specificity_eq_of_unknown unknown]
  rfl

/-- How the pages of the changed node compare before and after, the answers for all the nodes above
it compare. -/
theorem specificity_changeAt {holds : Route.Rank → Route.Rank → Prop}
    (comparison : Comparison holds) {change : RouteNode → RouteNode}
    (keeps : ∀ node, (change node).token = node.token)
    (same : ∀ node, (change node).children = node.children)
    (sound : ∀ node, node.Distinct → (change node).Distinct) (place : List String)
    {node : RouteNode} (distinct : node.Distinct)
    (unknown : ∀ rest, node.get? rest = none → cache.lookup (location ++ rest) = none)
    (pages : holds (Page.worstRank (node.slot place).pages)
      (Page.worstRank (change (node.slot place)).pages)) :
    holds (specificity cache location node).1
      (specificity cache location (changeAt change place node)).1 := by
  -- Down the way to the change. A remembered rank is answered before and after alike.
  induction place generalizing node location with
  | nil =>
    cases known : cache.lookup location with
    | some rank =>
      rw [specificity_of_known known, specificity_of_known known]
      exact comparison.refl rank
    | none =>
      rw [slot_nil] at pages
      rw [changeAt, specificity_eq_of_unknown known, specificity_eq_of_unknown known, same]
      exact comparison.worse pages (comparison.refl _)
  | cons token rest ih =>
    cases known : cache.lookup location with
    | some rank =>
      rw [specificity_of_known known, specificity_of_known known]
      exact comparison.refl rank
    | none =>
      have after : (changeAt change (token :: rest) node).Distinct :=
        distinct_changeAt keeps sound _ distinct
      rw [specificity_eq_foldr distinct known, specificity_eq_foldr after known]
      refine comparison.worse (comparison.refl _) (comparison.changeChild ?_ ?_)
      · rintro child member rfl
        have found := child?_token distinct.tokens member
        rw [slot_cons, found, Option.getD_some] at pages
        rw [token_changeAt keeps]
        refine ih (distinct.child member) (fun way missing => ?_) pages
        rw [List.append_assoc]
        exact unknown _ (by rw [List.singleton_append, get?_cons, found, Option.bind_some, missing])
      · intro missing
        have none : node.child? token = none := by
          cases found : node.child? token with
          | none => rfl
          | some child =>
            exact absurd (List.mem_map.2 ⟨child, mem_of_child? found, token_of_child? found⟩)
              missing
        rw [slot_cons, none, Option.getD_none] at pages
        -- Nothing is known below a node that was not there.
        have fresh : ∀ way, cache.lookup (location ++ [token] ++ way) = Option.none := by
          intro way
          rw [List.append_assoc]
          exact unknown _ (by rw [List.singleton_append, get?_cons, none, Option.bind_none])
        have index := specificity_empty (by simpa using fresh []) token
        rw [token_changeAt keeps, ← index]
        exact ih (distinct_empty token) (fun way _ => fresh way) pages

/-- A node is still there after a change. Its rank compares, and so does what is answered for it,
when nothing was answered for nodes that are not there. Off the way to the change it is the same. -/
theorem exists_get?_changeAt {holds : Route.Rank → Route.Rank → Prop}
    (comparison : Comparison holds) {change : RouteNode → RouteNode}
    (keeps : ∀ node, (change node).token = node.token)
    (same : ∀ node, (change node).children = node.children)
    (sound : ∀ node, node.Distinct → (change node).Distinct) {place : List String}
    {root node : RouteNode} (distinct : root.Distinct)
    (pages : holds (Page.worstRank (root.slot place).pages)
      (Page.worstRank (change (root.slot place)).pages))
    (reached : root.get? location = some node) :
    ∃ after, (changeAt change place root).get? location = some after ∧
      (location <+: place ∨ after = node) ∧ holds node.specificity after.specificity ∧
      ∀ cache : RankCache, (∀ way, root.get? way = none → cache.lookup way = none) →
        holds (specificity cache location node).1 (specificity cache location after).1 := by
  have inner := distinct.get? reached
  by_cases towards : location <+: place
  · obtain ⟨rest, rfl⟩ := towards
    have found : (changeAt change (location ++ rest) root).get? location =
        some (changeAt change rest node) := by
      rw [get?_changeAt_append keeps, slot_of_get? reached]
    have answers : ∀ cache : RankCache, (∀ way, root.get? way = none → cache.lookup way = none) →
        holds (specificity cache location node).1
          (specificity cache location (changeAt change rest node)).1 := by
      intro cache unknown
      refine specificity_changeAt comparison keeps same sound rest inner (fun way missing => ?_) ?_
      · exact unknown _ (by rw [get?_append, reached, Option.bind_some, missing])
      · rwa [← slot_of_get? reached, ← slot_append]
    refine ⟨_, found, .inl (List.prefix_append _ _), ?_, answers⟩
    have ranks := answers [] fun _ _ => rfl
    rwa [specificity_nil reached inner,
      specificity_nil found (distinct_changeAt keeps sound rest inner)] at ranks
  · refine ⟨node, ?_, .inr rfl, comparison.refl _, fun cache _ => comparison.refl _⟩
    rw [get?_changeAt_of_apart keeps same towards, reached]

end RankCache

end PageRoutes
