import Mathlib.Data.List.Forall2
import PageRoutes.Proofs.Declaration.ReadBack
import PageRoutes.Proofs.RouteTree.WalkLevel
import PageRoutes.RouteTree.Living

/-! Questions about a tree that does not change.

One cache lives through the questions, so what was asked before decides what is remembered. It
does not decide the answers. Main statement: every question about a rank is answered by the walk of
its node, every question about an order by the walks of the children, and the declarations, for
which one cache is asked all over the tree, are those without a cache.
-/

set_option autoImplicit false

namespace PageRoutes

theorem RouteNode.Distinct.get? {root node : RouteNode} {way : List String}
    (distinct : root.Distinct) (reached : root.get? way = some node) : node.Distinct := by
  induction way generalizing root with
  | nil =>
    cases (get?_nil root).symm.trans reached
    exact distinct
  | cons token rest ih =>
    rw [get?_cons] at reached
    obtain ⟨child, found, below⟩ := Option.bind_eq_some_iff.1 reached
    exact ih (distinct.child (mem_of_child? found)) below

namespace LivingTree

open RankCache RouteNode

/-- A question about the tree, which changes nothing in it and forgets nothing. -/
def Step.IsQuery : Step → Prop
  | .specificity _ | .sortedChildren _ => True
  | .child _ _ | .attach _ _ | .forget => False

instance (step : Step) : Decidable step.IsQuery := by
  cases step <;> unfold Step.IsQuery <;> infer_instance

/-- What a question is answered without a cache: the worst level that the walk of the node comes to,
or the children in the order of such levels. A way that leads nowhere has no answer. -/
inductive Answered (root : RouteNode) : Step → Option Answer → Prop where
  | rank {location : List String} {node : RouteNode} {rank : Route.Rank} :
      root.get? location = some node → rank.level = node.walkLevel →
      Answered root (.specificity location) (some (.rank rank))
  | children {location : List String} {node : RouteNode} :
      root.get? location = some node →
      Answered root (.sortedChildren location)
        (some (.children (node.children.mergeSort RouteNode.before)))
  | noRank {location : List String} :
      root.get? location = none → Answered root (.specificity location) none
  | noChildren {location : List String} :
      root.get? location = none → Answered root (.sortedChildren location) none

variable {root : RouteNode}

/-- A question gets its plain answer, and it leaves the tree as it is and the cache coherent. -/
theorem step_query (distinct : root.Distinct) {cache : RankCache} (coherent : Coherent root cache)
    {query : Step} (asks : query.IsQuery) :
    ∃ answer after, LivingTree.step ⟨root, cache⟩ query = (answer, ⟨root, after⟩) ∧
      Answered root query answer ∧ Coherent root after := by
  cases query with
  | specificity location =>
    cases reached : root.get? location with
    | none => exact ⟨none, cache, by simp only [step, reached], .noRank reached, coherent⟩
    | some node =>
      -- Whether the rank is remembered or computed now, it is the one of the node.
      obtain ⟨rank, after⟩ := answers_specificity reached (distinct.get? reached) cache coherent
      have stepped : LivingTree.step ⟨root, cache⟩ (.specificity location) =
          (some (.rank (RankCache.specificity cache location node).1),
            ⟨root, (RankCache.specificity cache location node).2⟩) := by
        simp only [step, reached]
      refine ⟨_, _, stepped, .rank reached ?_, after⟩
      rw [rank, level_specificity]
  | sortedChildren location =>
    cases reached : root.get? location with
    | none => exact ⟨none, cache, by simp only [step, reached], .noChildren reached, coherent⟩
    | some node =>
      obtain ⟨order, after⟩ := sortedChildren_eq reached (distinct.get? reached) coherent
      have stepped : LivingTree.step ⟨root, cache⟩ (.sortedChildren location) =
          (some (.children (RankCache.sortedChildren cache location node).1),
            ⟨root, (RankCache.sortedChildren cache location node).2⟩) := by
        simp only [step, reached]
      refine ⟨_, _, stepped, ?_, after⟩
      rw [order, sortedChildren_eq_mergeSort]
      exact .children reached
  | child location token => exact absurd asks id
  | attach location page => exact absurd asks id
  | forget => exact absurd asks id

theorem run_queries (distinct : root.Distinct) {cache : RankCache} (coherent : Coherent root cache)
    {queries : List Step} (ask : ∀ query ∈ queries, query.IsQuery) :
    ∃ answers after, LivingTree.run ⟨root, cache⟩ queries = (answers, ⟨root, after⟩) ∧
      List.Forall₂ (Answered root) queries answers := by
  induction queries generalizing cache with
  | nil => exact ⟨[], cache, rfl, .nil⟩
  | cons query rest ih =>
    obtain ⟨answer, between, step, answered, still⟩ :=
      step_query distinct coherent (ask query List.mem_cons_self)
    obtain ⟨answers, after, run, others⟩ :=
      ih still fun other member => ask other (List.mem_cons_of_mem _ member)
    refine ⟨answer :: answers, after, ?_, .cons answered others⟩
    rw [LivingTree.run, step]
    simp only [run]

end LivingTree

theorem Declaration.ofNode_eq_enclose (isRoot : Bool) (node : RouteNode) :
    ofNode isRoot node = enclose isRoot node.token node.layout
      (node.sortedPages.map Page.declaration ++
        (node.children.mergeSort RouteNode.before).flatMap (ofNode false)) := by
  rw [ofNode_eq, innerOf, flatten_inOrder_ofChildren, RouteNode.sortedChildren_eq_mergeSort,
    List.flatMap_def]
  rfl

namespace LivingTree

open RouteNode

/-- One cache answers any questions about an unchanging tree as the walks do, and the declarations
that are emitted through one cache are those for which every rank is computed anew. -/
theorem answers_of_queries {root : RouteNode} (distinct : root.Distinct) {queries : List Step}
    (ask : ∀ query ∈ queries, query.IsQuery) :
    List.Forall₂ (Answered root) queries ((ofRoot root).run queries).1 ∧
    Declaration.ofRoot root = Declaration.ofNode true root ∧
    ∀ isRoot node, Declaration.ofNode isRoot node =
      Declaration.enclose isRoot node.token node.layout
        (node.sortedPages.map Page.declaration ++
          (node.children.mergeSort RouteNode.before).flatMap (Declaration.ofNode false)) := by
  obtain ⟨answers, after, run, answered⟩ :=
    run_queries distinct (RankCache.coherent_nil root) ask
  refine ⟨?_, Declaration.ofRoot_eq distinct, Declaration.ofNode_eq_enclose⟩
  rw [ofRoot, run]
  exact answered

/-- A directory with a layout alone has the level of an index, and is asked for it twice. -/
theorem answers_of_repeated_queries :
    let root := (RouteTree.ofFiles Path.root (Path.ofString "/p")
      (["/p/[id].tsx", "/p/a/layout.tsx", "/p/docs/x/[...slug].tsx", "/p/posts/x.tsx"].map
        Path.ofString)).root
    let queries : List Step := [.specificity ["docs"], .specificity ["a"], .sortedChildren [],
      .specificity ["a"], .specificity ["b"], .specificity []]
    let answers := ((ofRoot root).run queries).1
    root.Distinct ∧ (∀ query ∈ queries, query.IsQuery) ∧
      List.Forall₂ (Answered root) queries answers ∧
      answers.filterMap (fun | some (.rank rank) => some rank | _ => none) =
        [.catchAll, .index, .index, .catchAll] := by
  intro root queries answers
  have distinct : root.Distinct := RouteTree.distinct_ofFiles _ _ _
  have ask : ∀ query ∈ queries, query.IsQuery := by decide
  exact ⟨distinct, ask, (answers_of_queries distinct ask).1, by decide +kernel⟩

end LivingTree

end PageRoutes
