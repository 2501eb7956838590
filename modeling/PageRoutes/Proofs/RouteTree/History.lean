import PageRoutes.Proofs.RouteTree.Contents
import PageRoutes.RouteTree.Living

/-! What the steps of a living tree have left in its nodes.

The pages of a node stand in the order in which their sources were first attached to it, and its
children in the order in which it was first asked for them. A step for which there is no node does
nothing, so only the steps that were taken count.
-/

set_option autoImplicit false

namespace PageRoutes

theorem map_source_placePage (page : Page) (pages : List Page) :
    (placePage page pages).map Page.source =
      if page.source ∈ pages.map Page.source then pages.map Page.source
      else pages.map Page.source ++ [page.source] := by
  induction pages with
  | nil => rfl
  | cons other rest ih =>
    by_cases here : other.source = page.source
    · simp [placePage, here]
    · rw [placePage, if_neg here, List.map_cons, List.map_cons, ih]
      by_cases below : page.source ∈ rest.map Page.source
      · rw [if_pos below, if_pos (List.mem_cons_of_mem _ below)]
      · have nowhere : page.source ∉ other.source :: rest.map Page.source := by
          simp only [List.mem_cons, not_or]
          exact ⟨Ne.symm here, below⟩
        rw [if_neg below, if_neg nowhere, List.cons_append]

namespace RouteTree

theorem nextToken?_concat (location place : List String) (token : String) :
    nextToken? location (place ++ [token]) =
      if place = location then some token else nextToken? location place := by
  by_cases towards : location <+: place
  · obtain ⟨rest, rfl⟩ := towards
    rw [List.append_assoc, nextToken?_append, nextToken?_append]
    cases rest <;> simp
  · have elsewhere : place ≠ location := fun same => towards (same ▸ List.prefix_refl _)
    rw [if_neg elsewhere, nextToken?_of_apart towards]
    by_cases last : location = place ++ [token]
    · rw [last, nextToken?_self]
    · exact nextToken?_of_apart fun longer =>
        (List.prefix_concat_iff.1 longer).elim last towards

end RouteTree

namespace RouteNode

open RouteTree

theorem changeAt_append (change : RouteNode → RouteNode) (first second : List String) :
    changeAt change (first ++ second) = changeAt (changeAt change second) first := by
  induction first with
  | nil => rfl
  | cons token rest ih =>
    funext node
    rw [List.cons_append, changeAt, changeAt, ih]

theorem mem_tokens_of_reached {root node : RouteNode} {place location : List String}
    {token : String} (reached : root.get? place = some node)
    (next : nextToken? location place = some token) :
    token ∈ (root.slot location).children.map RouteNode.token := by
  by_cases towards : location <+: place
  · obtain ⟨rest, rfl⟩ := towards
    rw [nextToken?_append] at next
    obtain ⟨others, rfl⟩ := List.head?_eq_some_iff.1 next
    rw [get?_append] at reached
    obtain ⟨above, found, below⟩ := Option.bind_eq_some_iff.1 reached
    rw [get?_cons] at below
    obtain ⟨child, lookup, -⟩ := Option.bind_eq_some_iff.1 below
    rw [slot_of_get? found]
    exact List.mem_map.2 ⟨child, mem_of_child? lookup, token_of_child? lookup⟩
  · rw [nextToken?, if_neg towards] at next
    cases next

theorem tokens_slot_changeAt_of_reached {change : RouteNode → RouteNode}
    (keeps : ∀ node, (change node).token = node.token)
    (holds : ∀ node, (change node).children = node.children) {root node : RouteNode}
    {place : List String} (reached : root.get? place = some node) (location : List String) :
    ((changeAt change place root).slot location).children.map RouteNode.token =
      (root.slot location).children.map RouteNode.token := by
  rw [tokens_slot_changeAt keeps holds]
  cases next : nextToken? location place with
  | none => rfl
  | some token => exact if_pos (mem_tokens_of_reached reached next)

theorem tokens_slot_child {root node : RouteNode} {place : List String}
    (reached : root.get? place = some node) (location : List String) (token : String) :
    let before := (root.slot location).children.map RouteNode.token
    ((changeAt id (place ++ [token]) root).slot location).children.map RouteNode.token =
      if place = location then if token ∈ before then before else before ++ [token]
      else before := by
  intro before
  rw [@tokens_slot_changeAt id (fun _ => rfl) (fun _ => rfl), nextToken?_concat]
  by_cases here : place = location
  · rw [if_pos here, if_pos here]
  · rw [if_neg here, if_neg here]
    cases next : nextToken? location place with
    | none => rfl
    | some other => exact if_pos (mem_tokens_of_reached reached next)

end RouteNode

namespace LivingTree

open RouteNode RouteTree

/-- The source that a step attaches to the pages of a node. A layout does not join them. -/
def Step.attached? (location : List String) : Step → Option Path
  | .attach place page =>
    if place = location ∧ page.isLayout = false then some page.source else none
  | .child _ _ | .specificity _ | .sortedChildren _ | .forget => none

def Step.requested? (location : List String) : Step → Option String
  | .child place token => if place = location then some token else none
  | .attach _ _ | .specificity _ | .sortedChildren _ | .forget => none

/-- The steps that were taken: those that had an answer. -/
def taken (tree : LivingTree) : List Step → List Step
  | [] => []
  | first :: rest =>
    if (tree.step first).1.isSome then first :: (tree.step first).2.taken rest
    else (tree.step first).2.taken rest

theorem taken_append (tree : LivingTree) (first second : List Step) :
    tree.taken (first ++ second) = tree.taken first ++ (tree.run first).2.taken second := by
  induction first generalizing tree with
  | nil => rfl
  | cons step rest ih =>
    rw [List.cons_append, taken, taken, ih]
    split <;> rfl

/-- What a step does to the tree: it asks a node for a child, it attaches a page to a node, or it
leaves the tree as it is and is none that is recorded. -/
theorem step_cases (tree : LivingTree) (step : Step) :
    (∃ place token node, step = .child place token ∧ tree.root.get? place = some node ∧
      (tree.step step).1.isSome ∧
      (tree.step step).2.root = tree.root.changeAt id (place ++ [token])) ∨
    (∃ place page node, step = .attach place page ∧ tree.root.get? place = some node ∧
      (tree.step step).1.isSome ∧
      (tree.step step).2.root = tree.root.changeAt (·.attach page) place) ∨
    (((tree.step step).1 = none ∨
        ∀ location, step.attached? location = none ∧ step.requested? location = none) ∧
      (tree.step step).2.root = tree.root) := by
  cases step with
  | child place token =>
    cases reached : tree.root.get? place with
    | none => exact .inr (.inr (by simp [LivingTree.step, change, reached]))
    | some node =>
      refine .inl ⟨place, token, node, rfl, reached, ?_⟩
      rw [changeAt_append]
      simp only [LivingTree.step, change, reached]
      exact ⟨rfl, rfl⟩
  | attach place page =>
    cases reached : tree.root.get? place with
    | none => exact .inr (.inr (by simp [LivingTree.step, change, reached]))
    | some node =>
      refine .inr (.inl ⟨place, page, node, rfl, reached, ?_⟩)
      simp [LivingTree.step, change, reached]
  | specificity place =>
    refine .inr (.inr ⟨.inr fun location => ⟨rfl, rfl⟩, ?_⟩)
    simp only [LivingTree.step]
    split <;> rfl
  | sortedChildren place =>
    refine .inr (.inr ⟨.inr fun location => ⟨rfl, rfl⟩, ?_⟩)
    simp only [LivingTree.step]
    split <;> rfl
  | forget => exact .inr (.inr ⟨.inr fun location => ⟨rfl, rfl⟩, rfl⟩)

/-- A node whose pages and children stand in the order in which the steps first named them. -/
structure Recalls (steps : List Step) (location : List String) (node : RouteNode) : Prop where
  pages : node.pages.map Page.source = (steps.filterMap (Step.attached? location)).eraseDups
  children : node.children.map RouteNode.token =
    (steps.filterMap (Step.requested? location)).eraseDups

theorem recalls_empty (location : List String) (token : String) :
    Recalls [] location ((empty token).slot location) := by
  cases location with
  | nil => exact ⟨rfl, rfl⟩
  | cons first rest =>
    rw [slot_cons]
    have missing : ((empty token).child? first).getD (empty first) = empty first := rfl
    cases rest <;> exact ⟨rfl, rfl⟩

theorem Recalls.step {steps : List Step} {location : List String} {tree : LivingTree}
    (recalled : Recalls steps location (tree.root.slot location)) (step : Step) :
    Recalls (steps ++ tree.taken [step]) location ((tree.step step).2.root.slot location) := by
  obtain ⟨pages, children⟩ := recalled
  rcases tree.step_cases step with ⟨place, token, node, rfl, reached, answered, after⟩ |
    ⟨place, page, node, rfl, reached, answered, after⟩ | ⟨idle, after⟩
  · obtain ⟨files, -⟩ := @files_slot_changeAt id (fun _ => rfl) (fun _ => rfl)
      (place ++ [token]) location tree.root
    rw [taken, if_pos answered, taken, after]
    refine ⟨?_, ?_⟩
    · rw [files, id, ite_self, pages, eraseDups_filterMap_concat, Step.attached?]
    · rw [tokens_slot_child reached, children, eraseDups_filterMap_concat, Step.requested?]
      by_cases here : place = location <;> simp [here]
  · obtain ⟨files, -⟩ := files_slot_changeAt (token_attach · page) (children_attach · page)
      place location tree.root
    rw [taken, if_pos answered, taken, after]
    refine ⟨?_, ?_⟩
    · rw [files, eraseDups_filterMap_concat, Step.attached?, ← pages, attach]
      by_cases here : place = location <;> cases isLayout : page.isLayout <;>
        simp [here, map_source_placePage]
    · rw [tokens_slot_changeAt_of_reached (token_attach · page) (children_attach · page) reached,
        children, eraseDups_filterMap_concat, Step.requested?]
  · rw [after, taken, taken]
    split
    · rename_i answered
      obtain ⟨noSource, noToken⟩ :=
        idle.resolve_left (Option.isSome_iff_ne_none.1 answered) location
      refine ⟨?_, ?_⟩
      · rw [pages, eraseDups_filterMap_concat, noSource]
      · rw [children, eraseDups_filterMap_concat, noToken]
    · rw [List.append_nil]
      exact ⟨pages, children⟩

/-- Whatever was done to a tree since it was empty, each of its nodes recalls it. -/
theorem recalls_run {token : String} {steps : List Step} {location : List String}
    {node : RouteNode}
    (reached : ((ofRoot (empty token)).run steps).2.root.get? location = some node) :
    Recalls ((ofRoot (empty token)).taken steps) location node := by
  suffices recalled : Recalls ((ofRoot (empty token)).taken steps) location
      (((ofRoot (empty token)).run steps).2.root.slot location) from slot_of_get? reached ▸ recalled
  clear reached
  induction steps using List.reverseRecOn with
  | nil => exact recalls_empty location token
  | append_singleton steps step ih =>
    rw [taken_append, run_append]
    exact ih.step step

theorem distinct_step {tree : LivingTree} (distinct : tree.root.Distinct) (step : Step) :
    (tree.step step).2.root.Distinct := by
  rcases tree.step_cases step with ⟨place, token, node, -, -, -, after⟩ |
    ⟨place, page, node, -, -, -, after⟩ | ⟨-, after⟩
  · rw [after]
    exact distinct_changeAt (fun _ => rfl) (fun _ distinct => distinct) _ distinct
  · rw [after]
    exact distinct_changeAt (token_attach · page) (fun _ => distinct_attach page) _ distinct
  · rw [after]
    exact distinct

theorem distinct_run {tree : LivingTree} (distinct : tree.root.Distinct) (steps : List Step) :
    (tree.run steps).2.root.Distinct := by
  induction steps generalizing tree with
  | nil => exact distinct
  | cons step rest ih => exact ih (distinct_step distinct step)

end LivingTree

end PageRoutes
