import PageRoutes.Proofs.RouteTree.History
import PageRoutes.Proofs.RouteTree.Queries
import PageRoutes.Proofs.RouteTree.RankGrowth

/-! Ranks that are remembered while the tree grows.

A cache that lives through changes keeps what it answered once, so an answer can be older than the
tree, and new answers are computed from old ones. Main statement: no answer is ever too bad. It is
at most the worst level below the node, it is that level unless a page has joined the nodes below,
and only such a page can make a right answer wrong.
-/

set_option autoImplicit false

namespace PageRoutes.LivingTree

open RouteNode RankCache

/-- A page has joined the node at a location or one below it. A layout does not join the pages. -/
def JoinedBelow (steps : List Step) (location : List String) : Prop :=
  ∃ place page, Step.attach place page ∈ steps ∧ page.isLayout = false ∧ location <+: place

theorem JoinedBelow.of_append {steps : List Step} {location rest : List String}
    (joined : JoinedBelow steps (location ++ rest)) : JoinedBelow steps location := by
  obtain ⟨place, page, member, isPage, below⟩ := joined
  exact ⟨place, page, member, isPage, (List.prefix_append _ _).trans below⟩

theorem JoinedBelow.append {steps : List Step} {location : List String}
    (joined : JoinedBelow steps location) (later : List Step) :
    JoinedBelow (steps ++ later) location := by
  obtain ⟨place, page, member, isPage, below⟩ := joined
  exact ⟨place, page, List.mem_append_left _ member, isPage, below⟩

/-- A rank that is not too bad for a node, and right if no page has joined below it. -/
structure Fair (steps : List Step) (location : List String) (rank : Route.Rank) (node : RouteNode) :
    Prop where
  le : rank.level ≤ node.specificity.level
  eq : ¬ JoinedBelow steps location → rank = node.specificity

structure Trusted (steps : List Step) (tree : LivingTree) : Prop where
  distinct : tree.root.Distinct
  known : ∀ way rank, tree.cache.lookup way = some rank →
    ∃ node, tree.root.get? way = some node ∧ Fair steps way rank node

theorem trusted_ofRoot {root : RouteNode} (distinct : root.Distinct) (steps : List Step) :
    Trusted steps (ofRoot root) :=
  ⟨distinct, fun _ _ found => nomatch found⟩

variable {steps : List Step} {tree : LivingTree} {location : List String} {node : RouteNode}

theorem Trusted.unknown (trusted : Trusted steps tree) {way : List String}
    (missing : tree.root.get? way = none) : tree.cache.lookup way = none := by
  cases known : tree.cache.lookup way with
  | none => rfl
  | some rank =>
    obtain ⟨node, reached, -⟩ := trusted.known way rank known
    rw [missing] at reached
    cases reached

theorem Trusted.fair (trusted : Trusted steps tree) (reached : tree.root.get? location = some node) :
    Fair steps location (RankCache.specificity tree.cache location node).1 node := by
  have distinct := trusted.distinct.get? reached
  induction node using childrenFirst generalizing location with
  | step token layout pages children ih =>
    cases known : tree.cache.lookup location with
    | some rank =>
      obtain ⟨other, same, fair⟩ := trusted.known location rank known
      rw [reached] at same
      cases same
      rw [specificity_of_known known]
      exact fair
    | none =>
      have below : ∀ child ∈ children, Fair steps (location ++ [child.token])
          (RankCache.specificity tree.cache (location ++ [child.token]) child).1 child :=
        fun child member => ih child member (childrenAt reached distinct child member)
          (distinct.child member)
      rw [specificity_eq_foldr distinct known]
      refine ⟨?_, fun unjoined => ?_⟩
      · rw [specificity_eq]
        exact comparison_le.worse (comparison_le.refl _)
          (comparison_le.foldr fun child member => (below child member).le)
      · rw [specificity_eq]
        exact comparison_eq.worse rfl (comparison_eq.foldr fun child member =>
          (below child member).eq fun joined => unjoined joined.of_append)

/-- A cache after questions: nothing was lost, and what was added are answers. -/
structure Asked (root : RouteNode) (cache after : RankCache) : Prop where
  kept : ∀ way rank, cache.lookup way = some rank → after.lookup way = some rank
  added : ∀ way rank, after.lookup way = some rank → cache.lookup way = some rank ∨
    ∃ node, root.get? way = some node ∧ rank = (RankCache.specificity cache way node).1

theorem asked_refl (root : RouteNode) (cache : RankCache) : Asked root cache cache :=
  ⟨fun _ _ => id, fun _ _ => .inl⟩

theorem asked_of_origin {cache after : RankCache} {root : RouteNode}
    (reached : root.get? location = some node) (origin : Origin cache location node after)
    (kept : ∀ way rank, cache.lookup way = some rank → after.lookup way = some rank) :
    Asked root cache after := by
  refine ⟨kept, fun way rank found => ?_⟩
  rcases origin way rank found with known | ⟨rest, below, rfl, beneath, answer⟩
  · exact .inl known
  · exact .inr ⟨below, by rw [get?_append, reached, Option.bind_some, beneath], answer⟩

theorem step_of_query (distinct : tree.root.Distinct) {query : Step} (asks : query.IsQuery) :
    (tree.step query).2.root = tree.root ∧
      Asked tree.root tree.cache (tree.step query).2.cache := by
  cases query with
  | specificity location =>
    cases reached : tree.root.get? location with
    | none =>
      simp only [LivingTree.step, reached, true_and]
      exact asked_refl _ _
    | some node =>
      simp only [LivingTree.step, reached, true_and]
      exact asked_of_origin reached (origin_specificity (distinct.get? reached) tree.cache)
        fun _ _ => lookup_of_known node
  | sortedChildren location =>
    cases reached : tree.root.get? location with
    | none =>
      simp only [LivingTree.step, reached, true_and]
      exact asked_refl _ _
    | some node =>
      have inner := distinct.get? reached
      simp only [LivingTree.step, reached, true_and]
      exact asked_of_origin reached (origin_rankChildren inner.tokens
        (fun child member cache => origin_specificity (inner.child member) cache) tree.cache)
        fun _ _ => lookup_rankChildren_of_known node.children
  | child location token => exact absurd asks id
  | attach location page => exact absurd asks id
  | forget => exact absurd asks id

theorem Asked.specificity_eq {root : RouteNode} {cache after : RankCache}
    (asked : Asked root cache after) (distinct : root.Distinct)
    (reached : root.get? location = some node) :
    (RankCache.specificity after location node).1 =
      (RankCache.specificity cache location node).1 := by
  have inner := distinct.get? reached
  -- A node without an answer is asked about its children, so the induction goes down the tree.
  induction node using childrenFirst generalizing location with
  | step token layout pages children ih =>
    cases known : after.lookup location with
    | some rank =>
      rw [specificity_of_known known]
      rcases asked.added location rank known with before | ⟨other, same, answer⟩
      · rw [specificity_of_known before]
      · rw [reached] at same
        cases same
        exact answer
    | none =>
      have before : cache.lookup location = none := by
        cases old : cache.lookup location with
        | none => rfl
        | some rank =>
          rw [asked.kept location rank old] at known
          cases known
      rw [specificity_eq_foldr inner known, specificity_eq_foldr inner before]
      exact comparison_eq.worse rfl (comparison_eq.foldr fun child member =>
        ih child member (childrenAt reached inner child member) (inner.child member))

theorem Trusted.later (trusted : Trusted steps tree) (later : List Step) :
    Trusted (steps ++ later) tree := by
  refine ⟨trusted.distinct, fun way rank found => ?_⟩
  obtain ⟨node, reached, fair⟩ := trusted.known way rank found
  exact ⟨node, reached, fair.le, fun unjoined => fair.eq fun joined => unjoined (joined.append later)⟩

theorem Trusted.ask (trusted : Trusted steps tree) {cache : RankCache}
    (asked : Asked tree.root tree.cache cache) : Trusted steps ⟨tree.root, cache⟩ := by
  refine ⟨trusted.distinct, fun way rank found => ?_⟩
  rcases asked.added way rank found with known | ⟨node, reached, rfl⟩
  · exact trusted.known way rank known
  · exact ⟨node, reached, trusted.fair reached⟩

/-- A change after which no rank is better, and after which no rank is worse unless a page has
joined below. -/
theorem Trusted.change (trusted : Trusted steps tree) {holds : Route.Rank → Route.Rank → Prop}
    (comparison : Comparison holds)
    (le : ∀ {first second}, holds first second → first.level ≤ second.level)
    {change : RouteNode → RouteNode} (keeps : ∀ node, (change node).token = node.token)
    (same : ∀ node, (change node).children = node.children)
    (sound : ∀ node, node.Distinct → (change node).Distinct) {place : List String}
    (pages : holds (Page.worstRank (tree.root.slot place).pages)
      (Page.worstRank (change (tree.root.slot place)).pages)) {later : List Step}
    (eq : ∀ way, way <+: place → ¬ JoinedBelow (steps ++ later) way →
      ∀ {first second}, holds first second → first = second) :
    Trusted (steps ++ later) ⟨tree.root.changeAt change place, tree.cache⟩ := by
  refine ⟨distinct_changeAt keeps sound place trusted.distinct, fun way rank found => ?_⟩
  obtain ⟨node, reached, fair⟩ := (trusted.later later).known way rank found
  obtain ⟨after, changed, here, compared, -⟩ :=
    exists_get?_changeAt comparison keeps same sound trusted.distinct pages reached
  refine ⟨after, changed, Nat.le_trans fair.le (le compared), fun unjoined => ?_⟩
  rcases here with towards | rfl
  · exact (fair.eq unjoined).trans (eq way towards unjoined compared)
  · exact fair.eq unjoined

theorem step_change (tree : LivingTree) {step : Step} (change : ¬ step.IsQuery)
    (lasting : step ≠ .forget) : (tree.step step).2.cache = tree.cache := by
  cases step with
  | child place token =>
    simp only [LivingTree.step, LivingTree.change]
    split <;> rfl
  | attach place page =>
    simp only [LivingTree.step, LivingTree.change]
    split <;> rfl
  | specificity place => exact absurd trivial change
  | sortedChildren place => exact absurd trivial change
  | forget => exact absurd rfl lasting

theorem Trusted.step (trusted : Trusted steps tree) (step : Step) (lasting : step ≠ .forget) :
    Trusted (steps ++ tree.taken [step]) (tree.step step).2 := by
  by_cases asks : step.IsQuery
  · obtain ⟨same, asked⟩ := step_of_query trusted.distinct asks
    have asking := (trusted.later (tree.taken [step])).ask asked
    rwa [← same] at asking
  · have after : (tree.step step).2 = ⟨(tree.step step).2.root, tree.cache⟩ := by
      rw [← step_change tree asks lasting]
    rcases tree.step_cases step with ⟨place, token, node, rfl, -, -, changed⟩ |
      ⟨place, page, node, rfl, -, answered, changed⟩ | ⟨-, same⟩
    · rw [after, changed]
      -- A new child has no pages yet, so no rank changes.
      exact trusted.change comparison_eq (fun same => Nat.le_of_eq (congrArg _ same))
        (fun _ => rfl) (fun _ => rfl) (fun _ => id) rfl fun _ _ _ _ _ => id
    · rw [after, changed]
      cases isLayout : page.isLayout with
      | true =>
        exact trusted.change comparison_eq (fun same => Nat.le_of_eq (congrArg _ same))
          (token_attach · page) (children_attach · page) (fun _ => distinct_attach page)
          (by rw [pages_attach_of_layout isLayout]) fun _ _ _ _ _ => id
      | false =>
        -- A page can make ranks worse, but only those of the nodes that it has joined.
        refine trusted.change comparison_le id (token_attach · page) (children_attach · page)
          (fun _ => distinct_attach page) ?_ fun way towards unjoined => absurd ?_ unjoined
        · rw [pages_attach_of_page isLayout]
          exact Page.level_worstRank_le_placePage page _
        · rw [taken, if_pos answered]
          exact ⟨place, page, by simp, isLayout, towards⟩
    · rw [after, same]
      exact trusted.later _

theorem taken_cons (tree : LivingTree) (first : Step) (rest : List Step) :
    tree.taken (first :: rest) = tree.taken [first] ++ (tree.step first).2.taken rest :=
  taken_append tree [first] rest

theorem Trusted.run (trusted : Trusted steps tree) {later : List Step} (lasting : .forget ∉ later) :
    Trusted (steps ++ tree.taken later) (tree.run later).2 := by
  induction later generalizing steps tree with
  | nil => exact trusted.later _
  | cons first rest ih =>
    obtain ⟨now, afterwards⟩ := not_or.1 fun either => lasting (List.mem_cons.2 either)
    rw [taken_cons, ← List.append_assoc]
    exact ih (trusted.step _ (Ne.symm now)) afterwards

/-- A step that neither adds a page to a node nor forgets what was answered: it asks, it creates a
child, it attaches a layout, or it attaches a page whose source the node holds. -/
def Settled (root : RouteNode) : Step → Prop
  | .child _ _ | .specificity _ | .sortedChildren _ => True
  | .attach place page => page.isLayout = true ∨
      ∃ node, root.get? place = some node ∧ page.source ∈ node.pages.map Page.source
  | .forget => False

/-- A change that leaves the worst rank of the changed pages leaves every node with its rank and with
the answer it had. -/
theorem Trusted.exists_unchanged (trusted : Trusted steps tree) {change : RouteNode → RouteNode}
    (keeps : ∀ node, (change node).token = node.token)
    (same : ∀ node, (change node).children = node.children)
    (sound : ∀ node, node.Distinct → (change node).Distinct) {place : List String}
    (pages : Page.worstRank (tree.root.slot place).pages =
      Page.worstRank (change (tree.root.slot place)).pages)
    (reached : tree.root.get? location = some node) :
    ∃ after, (tree.root.changeAt change place).get? location = some after ∧
      after.specificity = node.specificity ∧
      (RankCache.specificity tree.cache location after).1 =
        (RankCache.specificity tree.cache location node).1 := by
  obtain ⟨after, found, -, rank, answer⟩ :=
    exists_get?_changeAt comparison_eq keeps same sound trusted.distinct pages reached
  exact ⟨after, found, rank.symm, (answer tree.cache fun _ => trusted.unknown).symm⟩

theorem Trusted.settled (trusted : Trusted steps tree) {step : Step}
    (settled : Settled tree.root step) (reached : tree.root.get? location = some node) :
    ∃ after, (tree.step step).2.root.get? location = some after ∧
      after.specificity = node.specificity ∧
      (RankCache.specificity (tree.step step).2.cache location after).1 =
        (RankCache.specificity tree.cache location node).1 := by
  by_cases asks : step.IsQuery
  · obtain ⟨same, asked⟩ := step_of_query trusted.distinct asks
    exact ⟨node, same ▸ reached, rfl, asked.specificity_eq trusted.distinct reached⟩
  · have lasting : step ≠ .forget := fun forgets => by simp [forgets, Settled] at settled
    rw [step_change tree asks lasting]
    rcases tree.step_cases step with ⟨place, token, _, rfl, -, -, changed⟩ |
      ⟨place, page, _, rfl, found, -, changed⟩ | ⟨-, same⟩
    · rw [changed]
      exact trusted.exists_unchanged (fun _ => rfl) (fun _ => rfl) (fun _ => id) rfl reached
    · rw [changed]
      refine trusted.exists_unchanged (token_attach · page) (children_attach · page)
        (fun _ => distinct_attach page) ?_ reached
      cases isLayout : page.isLayout with
      | true => rw [pages_attach_of_layout isLayout]
      | false =>
        obtain ⟨holder, here, held⟩ := settled.resolve_left (by simp [isLayout])
        rw [pages_attach_of_page isLayout, slot_of_get? here,
          Page.worstRank_placePage_of_mem held]
    · exact ⟨node, same ▸ reached, rfl, rfl⟩

/-- A question about the node at the location is answered by this rank. -/
def Ranks (tree : LivingTree) (location : List String) (rank : Route.Rank) : Prop :=
  (tree.step (.specificity location)).1 = some (.rank rank)

/-- The rank is the answer whatever else is done, as long as the answers are not forgotten. -/
def Remembers (tree : LivingTree) (location : List String) (rank : Route.Rank) : Prop :=
  ∀ later, .forget ∉ later → (tree.run later).2.Ranks location rank

theorem ranks_iff {rank : Route.Rank} (reached : tree.root.get? location = some node) :
    tree.Ranks location rank ↔ (RankCache.specificity tree.cache location node).1 = rank := by
  simp [Ranks, LivingTree.step, reached]

theorem lookup_step {step : Step} (lasting : step ≠ .forget) (distinct : tree.root.Distinct)
    {rank : Route.Rank} (known : tree.cache.lookup location = some rank) :
    (tree.step step).2.cache.lookup location = some rank := by
  by_cases asks : step.IsQuery
  · exact (step_of_query distinct asks).2.kept location rank known
  · rwa [step_change tree asks lasting]

theorem lookup_run {later : List Step} (lasting : .forget ∉ later) (distinct : tree.root.Distinct)
    {rank : Route.Rank} (known : tree.cache.lookup location = some rank) :
    (tree.run later).2.cache.lookup location = some rank := by
  induction later generalizing tree with
  | nil => exact known
  | cons first rest ih =>
    obtain ⟨now, afterwards⟩ := not_or.1 fun either => lasting (List.mem_cons.2 either)
    exact ih afterwards (distinct_step distinct first)
      (lookup_step (Ne.symm now) distinct known)

theorem Trusted.remembers (trusted : Trusted steps tree) {rank : Route.Rank}
    (known : tree.cache.lookup location = some rank) : tree.Remembers location rank := by
  intro later lasting
  have still := lookup_run lasting trusted.distinct known
  obtain ⟨node, reached, -⟩ := (trusted.run lasting).known location rank still
  rw [ranks_iff reached, specificity_of_known still]

theorem arranged_inOrder (rank : RouteNode → Route.Rank) (children : List RouteNode) :
    Arranged (fun child => (rank child).level) (fun child => child.token.length) children
      (Sibling.inOrder (children.map fun child => ⟨rank child, child.token, child⟩)) := by
  let ranked : RouteNode → Sibling RouteNode := fun child => ⟨rank child, child.token, child⟩
  let le : RouteNode → RouteNode → Bool := fun first second => (ranked first).before (ranked second)
  have sorted : (children.mergeSort le).map ranked = (children.map ranked).mergeSort Sibling.before :=
    List.map_mergeSort fun _ _ _ _ => rfl
  have values : Sibling.value ∘ ranked = id := rfl
  rw [Sibling.inOrder, ← sorted, List.map_map, values, List.map_id]
  exact arranged_mergeSort (fun first second => by simp [le, ranked, Sibling.before]) children

theorem Trusted.sortedChildren (trusted : Trusted steps tree)
    (reached : tree.root.get? location = some node) :
    ∃ (rank : RouteNode → Route.Rank) (sorted : List RouteNode),
      (tree.step (.sortedChildren location)).1 = some (.children sorted) ∧
      Arranged (fun child => (rank child).level) (fun child => child.token.length)
        node.children sorted ∧
      ∀ child ∈ node.children, tree.Ranks (location ++ [child.token]) (rank child) ∧
        (tree.step (.sortedChildren location)).2.Remembers (location ++ [child.token])
          (rank child) := by
  have inner := trusted.distinct.get? reached
  have after := trusted.step (.sortedChildren location) (by simp)
  refine ⟨fun child => (askedAlone tree.cache location child).rank,
    (RankCache.sortedChildren tree.cache location node).1,
    by simp only [LivingTree.step, reached], ?_, fun child member => ⟨?_, ?_⟩⟩
  · have ranked : (rankChildren tree.cache location node.children).1 = _ :=
      rankChildren_eq_map inner.tokens tree.cache
    change Arranged _ _ _ (Sibling.inOrder (rankChildren tree.cache location node.children).1)
    rw [ranked]
    exact arranged_inOrder _ node.children
  · rw [ranks_iff (childrenAt reached inner child member)]
    rfl
  · apply after.remembers
    simp only [LivingTree.step, reached]
    exact lookup_rankChildren inner.tokens member tree.cache

/-- Ranks that are answered through one cache while the tree grows. Every node has an answer, which
is then remembered; it is at most the worst level below the node, and it is that level unless a page
has joined below since the cache was created. Children are ordered by such answers. Only a page with
a new source can change what is right about an answer. -/
theorem ranks_of_run {root : RouteNode} (distinct : root.Distinct) {steps : List Step}
    (lasting : .forget ∉ steps) :
    let tree := ((ofRoot root).run steps).2
    let taken := (ofRoot root).taken steps
    (∀ location rank, tree.cache.lookup location = some rank → tree.Remembers location rank) ∧
    (∀ location node, tree.root.get? location = some node → ∃ rank, tree.Ranks location rank ∧
      (tree.step (.specificity location)).2.Remembers location rank ∧
      rank.level ≤ node.walkLevel ∧
      (¬ JoinedBelow taken location → rank.level = node.walkLevel)) ∧
    (∀ location node, tree.root.get? location = some node →
      ∃ (rank : RouteNode → Route.Rank) (sorted : List RouteNode),
        (tree.step (.sortedChildren location)).1 = some (.children sorted) ∧
        Arranged (fun child => (rank child).level) (fun child => child.token.length)
          node.children sorted ∧
        ∀ child ∈ node.children, tree.Ranks (location ++ [child.token]) (rank child) ∧
          (tree.step (.sortedChildren location)).2.Remembers (location ++ [child.token])
            (rank child)) ∧
    ∀ step, Settled tree.root step → ∀ location node, tree.root.get? location = some node →
      ∃ after, (tree.step step).2.root.get? location = some after ∧
        after.walkLevel = node.walkLevel ∧
        ∀ rank, (tree.step step).2.Ranks location rank ↔ tree.Ranks location rank := by
  intro tree taken
  have trusted : Trusted taken tree := by
    simpa using (trusted_ofRoot distinct []).run lasting
  refine ⟨fun _ _ => trusted.remembers, fun location node reached => ?_,
    fun _ _ => trusted.sortedChildren, fun step settled location node reached => ?_⟩
  · have fair := trusted.fair reached
    refine ⟨_, (ranks_iff reached).2 rfl, ?_, ?_, fun unjoined => ?_⟩
    · have after := trusted.step (.specificity location) (by simp)
      apply after.remembers
      simp only [LivingTree.step, reached]
      exact lookup_specificity tree.cache location node
    · exact level_specificity node ▸ fair.le
    · rw [fair.eq unjoined, level_specificity]
  · obtain ⟨after, found, same, answer⟩ := trusted.settled settled reached
    refine ⟨after, found, ?_, fun rank => ?_⟩
    · rw [← level_specificity, same, level_specificity]
    · rw [ranks_iff found, ranks_iff reached, answer]

/-- A parameter joins a directory of which the rank was asked before. The old rank is answered again,
and it is the one with which the rank of the root is computed. -/
theorem ranks_of_old_question :
    let root := (RouteTree.ofFiles Path.root (Path.ofString "/p")
      (["/p/blog/x.tsx", "/p/docs/y.tsx"].map Path.ofString)).root
    let steps : List Step := [.specificity ["docs"],
      .attach ["docs"] ⟨Path.ofString "/p/docs/[id].tsx", "Page2"⟩, .child ["docs"] "deep",
      .specificity ["docs"], .specificity []]
    let tree := ((ofRoot root).run steps).2
    root.Distinct ∧ .forget ∉ steps ∧
      (∃ node rank, tree.root.get? ["docs"] = some node ∧ tree.Ranks ["docs"] rank ∧
        rank.level < node.walkLevel) ∧
      ((ofRoot root).run steps).1.filterMap (fun | some (.rank rank) => some rank | _ => none) =
        [.literal, .literal, .literal] := by
  intro root steps tree
  have distinct : root.Distinct := RouteTree.distinct_ofFiles _ _ _
  have lasting : .forget ∉ steps := by simp [steps]
  have found : (tree.root.get? ["docs"]).isSome := by decide +kernel
  obtain ⟨node, reached⟩ := Option.isSome_iff_exists.1 found
  obtain ⟨rank, answer, -, notWorse, -⟩ := (ranks_of_run distinct lasting).2.1 ["docs"] node reached
  have apart : rank.level ≠ node.walkLevel := by
    have old : tree.cache.lookup ["docs"] = some .literal := by decide +kernel
    have now : (tree.root.get? ["docs"]).map walkLevel = some 2 := by decide +kernel
    rw [ranks_iff reached, specificity_of_known old] at answer
    rw [reached, Option.map_some, Option.some.injEq] at now
    rw [now, ← answer]
    decide
  exact ⟨distinct, lasting, ⟨node, rank, reached, answer, Nat.lt_of_le_of_ne notWorse apart⟩,
    by decide +kernel⟩

end PageRoutes.LivingTree
