import PageRoutes.Proofs.RouteTree.RankCache

/-! What a question for a rank leaves in the cache.

A question looks only at what the cache knows of the node and of the nodes below it, and it adds
only ranks that it answers. So the children of a node are asked as if each were asked alone, and
no question changes what another one is answered. None of this takes the cache to be coherent with
the tree: what it knows may be old.
-/

set_option autoImplicit false

namespace PageRoutes.RankCache

open RouteNode

variable {cache : RankCache} {location : List String}

theorem specificity_of_known {known : Route.Rank} (found : cache.lookup location = some known)
    (node : RouteNode) : specificity cache location node = (known, cache) := by
  obtain ⟨token, layout, pages, children⟩ := node
  unfold specificity
  rw [found]

def worstRanked (ranked : List (Sibling RouteNode)) : Route.Rank :=
  ranked.foldr (fun child worst => child.rank.worse worst) .index

theorem worstOf_eq_rankChildren (cache : RankCache) (location : List String)
    (children : List RouteNode) :
    worstOf cache location children =
      (worstRanked (rankChildren cache location children).1,
        (rankChildren cache location children).2) := by
  induction children generalizing cache with
  | nil => rfl
  | cons child rest ih =>
    simp only [worstOf, ih, rankChildren]
    rfl

theorem specificity_of_unknown (unknown : cache.lookup location = none) (node : RouteNode) :
    let (ranked, after) := rankChildren cache location node.children
    let found := (Page.worstRank node.pages).worse (worstRanked ranked)
    specificity cache location node = (found, (location, found) :: after) := by
  obtain ⟨token, layout, pages, children⟩ := node
  unfold specificity
  simp only [unknown, worstOf_eq_rankChildren]

theorem specificity_eq_of_unknown (unknown : cache.lookup location = none) (node : RouteNode) :
    (specificity cache location node).1 = (Page.worstRank node.pages).worse
      (worstRanked (rankChildren cache location node.children).1) := by
  rw [specificity_of_unknown unknown]

theorem lookup_of_unknown (unknown : cache.lookup location = none) (node : RouteNode)
    (way : List String) :
    (specificity cache location node).2.lookup way =
      if way = location then some (specificity cache location node).1
      else (rankChildren cache location node.children).2.lookup way := by
  rw [specificity_of_unknown unknown, List.lookup_cons]
  by_cases here : way = location
  · simp [here]
  · simp [here, beq_eq_false_iff_ne.2 here]

/-- What is asked of the children one after the other holds after all were asked. -/
theorem rankChildren_induction {motive : RankCache → RankCache → Prop} {children : List RouteNode}
    (refl : ∀ cache, motive cache cache)
    (trans : ∀ {first second third}, motive first second → motive second third → motive first third)
    (each : ∀ child ∈ children, ∀ cache,
      motive cache (specificity cache (location ++ [child.token]) child).2) (cache : RankCache) :
    motive cache (rankChildren cache location children).2 := by
  induction children generalizing cache with
  | nil => exact refl cache
  | cons child rest ih =>
    exact trans (each child List.mem_cons_self cache)
      (ih (fun other member => each other (List.mem_cons_of_mem _ member)) _)

theorem not_prefix_of_append {location rest way : List String} (apart : ¬ location <+: way) :
    ¬ location ++ rest <+: way :=
  fun below => apart ((List.prefix_append location rest).trans below)

theorem lookup_of_apart {way : List String} (apart : ¬ location <+: way) (node : RouteNode)
    (cache : RankCache) :
    (specificity cache location node).2.lookup way = cache.lookup way := by
  induction node using childrenFirst generalizing location cache with
  | step token layout pages children ih =>
    cases known : cache.lookup location with
    | some rank => rw [specificity_of_known known]
    | none =>
      rw [lookup_of_unknown known, if_neg (by rintro rfl; exact apart (List.prefix_refl _))]
      exact rankChildren_induction (motive := fun first second =>
          second.lookup way = first.lookup way)
        (fun _ => rfl) (fun earlier later => later.trans earlier)
        (fun child member cache => ih child member (not_prefix_of_append apart) cache) cache

theorem lookup_of_known {way : List String} {rank : Route.Rank} (node : RouteNode)
    {cache : RankCache} (known : cache.lookup way = some rank) :
    (specificity cache location node).2.lookup way = some rank := by
  induction node using childrenFirst generalizing location cache with
  | step token layout pages children ih =>
    cases here : cache.lookup location with
    | some _ => rw [specificity_of_known here, known]
    | none =>
      rw [lookup_of_unknown here, if_neg (by rintro rfl; rw [here] at known; cases known)]
      exact rankChildren_induction (motive := fun first second =>
          first.lookup way = some rank → second.lookup way = some rank)
        (fun _ => id) (fun earlier later => later ∘ earlier)
        (fun child member cache => ih child member) cache known

theorem lookup_rankChildren_of_known {way : List String} {rank : Route.Rank}
    (children : List RouteNode) (known : cache.lookup way = some rank) :
    (rankChildren cache location children).2.lookup way = some rank :=
  rankChildren_induction (motive := fun first second =>
      first.lookup way = some rank → second.lookup way = some rank)
    (fun _ => id) (fun earlier later => later ∘ earlier)
    (fun child _ _ => lookup_of_known child) cache known

theorem lookup_specificity (cache : RankCache) (location : List String) (node : RouteNode) :
    (specificity cache location node).2.lookup location =
      some (specificity cache location node).1 := by
  cases known : cache.lookup location with
  | some rank => rw [specificity_of_known known, known]
  | none => rw [lookup_of_unknown known, if_pos rfl]

/-- Two caches that know the same of a node and of all below it. -/
def SameBelow (location : List String) (first second : RankCache) : Prop :=
  ∀ way, location <+: way → first.lookup way = second.lookup way

theorem SameBelow.append {first second : RankCache} (same : SameBelow location first second)
    (rest : List String) : SameBelow (location ++ rest) first second :=
  fun way below => same way ((List.prefix_append location rest).trans below)

theorem specificity_congr {first second : RankCache} (same : SameBelow location first second)
    (node : RouteNode) :
    (specificity first location node).1 = (specificity second location node).1 ∧
      SameBelow location (specificity first location node).2
        (specificity second location node).2 := by
  induction node using childrenFirst generalizing location first second with
  | step token layout pages children ih =>
    have here := same location (List.prefix_refl _)
    cases known : first.lookup location with
    | some rank =>
      rw [specificity_of_known known, specificity_of_known (here ▸ known)]
      exact ⟨rfl, same⟩
    | none =>
      have ranked : (rankChildren first location children).1 =
            (rankChildren second location children).1 ∧
          SameBelow location (rankChildren first location children).2
            (rankChildren second location children).2 := by
        clear known here
        -- The induction down the tree settles each child; this one hands the caches from child to child.
        induction children generalizing first second with
        | nil => exact ⟨rfl, same⟩
        | cons child rest others =>
          obtain ⟨rank, below⟩ := ih child List.mem_cons_self (same.append [child.token])
          have after : SameBelow location
              (specificity first (location ++ [child.token]) child).2
              (specificity second (location ++ [child.token]) child).2 := by
            intro way under
            by_cases inside : location ++ [child.token] <+: way
            · exact below way inside
            · rw [lookup_of_apart inside, lookup_of_apart inside, same way under]
          obtain ⟨ranks, final⟩ :=
            others (fun other member => ih other (List.mem_cons_of_mem _ member)) after
          refine ⟨?_, final⟩
          rw [rankChildren, rankChildren]
          simp only [rank, ranks]
      have answer : (specificity first location ⟨token, layout, pages, children⟩).1 =
          (specificity second location ⟨token, layout, pages, children⟩).1 := by
        rw [specificity_eq_of_unknown known, specificity_eq_of_unknown (here ▸ known), ranked.1]
      refine ⟨answer, fun way under => ?_⟩
      rw [lookup_of_unknown known, lookup_of_unknown (here ▸ known), answer, ranked.2 way under]

def askedAlone (cache : RankCache) (location : List String) (child : RouteNode) :
    Sibling RouteNode :=
  ⟨(specificity cache (location ++ [child.token]) child).1, child.token, child⟩

theorem sameBelow_of_sibling {location : List String} {child : RouteNode} {token : String}
    (apart : child.token ≠ token) (cache : RankCache) :
    SameBelow (location ++ [token])
      (specificity cache (location ++ [child.token]) child).2 cache := by
  intro way under
  refine lookup_of_apart (fun below => apart ?_) child cache
  have together := List.prefix_of_prefix_length_le below under (by simp)
  simpa using (List.prefix_append_right_inj location).1 together

/-- Siblings do not get in each other's way. -/
theorem rankChildren_eq_map {children : List RouteNode}
    (tokens : (children.map RouteNode.token).Nodup) (cache : RankCache) :
    (rankChildren cache location children).1 = children.map (askedAlone cache location) := by
  induction children generalizing cache with
  | nil => rfl
  | cons child rest ih =>
    obtain ⟨apart, others⟩ := List.nodup_cons.1 tokens
    rw [rankChildren, List.map_cons, askedAlone]
    simp only [ih others]
    refine congrArg _ (List.map_congr_left fun other member => ?_)
    have different : child.token ≠ other.token := fun same =>
      apart (same ▸ List.mem_map_of_mem member)
    rw [askedAlone, askedAlone, (specificity_congr (sameBelow_of_sibling different cache) other).1]

/-- A node that is not known has the worst rank of its pages and of its children, each asked
alone. -/
theorem specificity_eq_foldr {node : RouteNode} (distinct : node.Distinct)
    (unknown : cache.lookup location = none) :
    (specificity cache location node).1 = (Page.worstRank node.pages).worse
      (node.children.foldr (fun child worst =>
        (specificity cache (location ++ [child.token]) child).1.worse worst) .index) := by
  rw [specificity_eq_of_unknown unknown, rankChildren_eq_map distinct.tokens, worstRanked,
    List.foldr_map]
  rfl

theorem lookup_rankChildren {children : List RouteNode}
    (tokens : (children.map RouteNode.token).Nodup) {child : RouteNode}
    (member : child ∈ children) (cache : RankCache) :
    (rankChildren cache location children).2.lookup (location ++ [child.token]) =
      some (specificity cache (location ++ [child.token]) child).1 := by
  induction children generalizing cache with
  | nil => cases member
  | cons first rest ih =>
    obtain ⟨apart, others⟩ := List.nodup_cons.1 tokens
    rcases List.mem_cons.1 member with rfl | later
    · exact lookup_rankChildren_of_known rest (lookup_specificity cache _ child)
    · have different : first.token ≠ child.token := fun same =>
        apart (same ▸ List.mem_map_of_mem later)
      rw [← (specificity_congr (sameBelow_of_sibling different cache) child).1]
      exact ih others later _

/-- Whatever is known after a question was known before it, or it is what the node that stands
there is answered. -/
def Origin (cache : RankCache) (location : List String) (node : RouteNode) (after : RankCache) :
    Prop :=
  ∀ way rank, after.lookup way = some rank → cache.lookup way = some rank ∨
    ∃ rest below, way = location ++ rest ∧ node.get? rest = some below ∧
      rank = (specificity cache way below).1

theorem origin_rankChildren_of {children : List RouteNode}
    (tokens : (children.map RouteNode.token).Nodup)
    (each : ∀ child ∈ children, ∀ cache, Origin cache (location ++ [child.token]) child
      (specificity cache (location ++ [child.token]) child).2) (cache : RankCache)
    (way : List String) (rank : Route.Rank)
    (found : (rankChildren cache location children).2.lookup way = some rank) :
    cache.lookup way = some rank ∨ ∃ child ∈ children, ∃ rest below,
      way = location ++ [child.token] ++ rest ∧ child.get? rest = some below ∧
        rank = (specificity cache way below).1 := by
  induction children generalizing cache with
  | nil => exact .inl found
  | cons child others ih =>
    obtain ⟨apart, different⟩ := List.nodup_cons.1 tokens
    rcases ih different (fun other member => each other (List.mem_cons_of_mem _ member)) _ found
      with earlier | ⟨other, member, rest, below, rfl, reached, same⟩
    · rcases each child List.mem_cons_self cache way rank earlier with known | ⟨rest, below, split⟩
      · exact .inl known
      · exact .inr ⟨child, List.mem_cons_self, rest, below, split⟩
    · have tokensDiffer : child.token ≠ other.token := fun same =>
        apart (same ▸ List.mem_map_of_mem member)
      refine .inr ⟨other, List.mem_cons_of_mem _ member, rest, below, rfl, reached, ?_⟩
      rw [same,
        (specificity_congr ((sameBelow_of_sibling tokensDiffer cache).append rest) below).1]

theorem origin_rankChildren {node : RouteNode} (tokens : (node.children.map RouteNode.token).Nodup)
    (each : ∀ child ∈ node.children, ∀ cache, Origin cache (location ++ [child.token]) child
      (specificity cache (location ++ [child.token]) child).2) (cache : RankCache) :
    Origin cache location node (rankChildren cache location node.children).2 := by
  intro way rank found
  rcases origin_rankChildren_of tokens each cache way rank found with known |
    ⟨child, member, rest, below, split, reached, same⟩
  · exact .inl known
  · refine .inr ⟨child.token :: rest, below, by simpa using split, ?_, same⟩
    rw [get?_cons, child?_token tokens member, Option.bind_some, reached]

theorem origin_specificity {node : RouteNode} (distinct : node.Distinct) (cache : RankCache) :
    Origin cache location node (specificity cache location node).2 := by
  induction node using childrenFirst generalizing location cache with
  | step token layout pages children ih =>
    intro way rank found
    cases known : cache.lookup location with
    | some _ =>
      rw [specificity_of_known known] at found
      exact .inl found
    | none =>
      rw [lookup_of_unknown known] at found
      split at found
      · rename_i here
        subst here
        exact .inr ⟨[], _, (List.append_nil _).symm, get?_nil _, (Option.some.inj found).symm⟩
      · exact origin_rankChildren distinct.tokens
          (fun child member cache => ih child member (distinct.child member) cache) cache way rank
          found

end PageRoutes.RankCache
