import PageRoutes.Proofs.RouteTree.Structure

/-! Sorting siblings and leaving some out.

The order of siblings is stable, so leaving some of them out before or after sorting is the
same. A subtree without pages has the best rank, so without it no rank changes either. Hence
pruned trees have the order of the siblings that remain.
-/

set_option autoImplicit false

namespace PageRoutes

section

variable {α : Type} {le : α → α → Bool}

theorem cut_unique {keeps : α → Bool} {first rest other others : List α}
    (same : first ++ rest = other ++ others) (before : ∀ item ∈ first, keeps item = true)
    (behind : ∀ item ∈ rest, keeps item = false) (before' : ∀ item ∈ other, keeps item = true)
    (behind' : ∀ item ∈ others, keeps item = false) : first = other ∧ rest = others := by
  have start : ∀ {items tail : List α}, (∀ item ∈ items, keeps item = true) →
      (∀ item ∈ tail, keeps item = false) → (items ++ tail).takeWhile keeps = items := by
    intro items tail holds fails
    have none : tail.takeWhile keeps = [] := by
      cases tail with
      | nil => rfl
      | cons item _ => rw [List.takeWhile_cons_of_neg (by simp [fails item])]
    rw [List.takeWhile_append_of_pos holds, none, List.append_nil]
  have heads : first = other := by rw [← start before behind, same, start before' behind']
  exact ⟨heads, List.append_cancel_left (heads ▸ same)⟩

theorem exists_mergeSort_cons (trans : ∀ a b c, le a b = true → le b c = true → le a c = true)
    (total : ∀ a b, (le a b || le b a) = true) (item : α) (items : List α) :
    ∃ first rest, (item :: items).mergeSort le = first ++ item :: rest ∧
      items.mergeSort le = first ++ rest ∧
      (∀ other ∈ first, (!le item other) = true) ∧ ∀ other ∈ rest, (!le item other) = false := by
  obtain ⟨first, rest, sorted, without, less⟩ := List.mergeSort_cons trans total item items
  have ordered := List.pairwise_mergeSort trans total (item :: items)
  rw [sorted, List.pairwise_append, List.pairwise_cons] at ordered
  exact ⟨first, rest, sorted, without, less, fun other member => by
    simpa using ordered.2.1.1 other member⟩

/-- It does not matter whether items are left out before or after sorting. -/
theorem filter_mergeSort (trans : ∀ a b c, le a b = true → le b c = true → le a c = true)
    (total : ∀ a b, (le a b || le b a) = true) (keep : α → Bool) (items : List α) :
    (items.mergeSort le).filter keep = (items.filter keep).mergeSort le := by
  induction items with
  | nil => simp
  | cons item items ih =>
    obtain ⟨first, rest, sorted, without, before, behind⟩ :=
      exists_mergeSort_cons trans total item items
    rw [without, List.filter_append] at ih
    rw [sorted, List.filter_append]
    by_cases kept : keep item = true
    · obtain ⟨other, others, sorted', without', before', behind'⟩ :=
        exists_mergeSort_cons trans total item (items.filter keep)
      rw [without'] at ih
      obtain ⟨same, same'⟩ := cut_unique ih
        (fun found member => before found (List.mem_filter.1 member).1)
        (fun found member => behind found (List.mem_filter.1 member).1) before' behind'
      rw [List.filter_cons_of_pos kept, List.filter_cons_of_pos kept, sorted', same, same']
    · rw [List.filter_cons_of_neg kept, List.filter_cons_of_neg kept, ih]

end

namespace Sibling

variable {α β : Type}

theorem before_trans (first second third : Sibling α) (earlier : first.before second = true)
    (later : second.before third = true) : first.before third = true := by
  simp only [before, Bool.or_eq_true, Bool.and_eq_true, decide_eq_true_eq, beq_iff_eq] at *
  omega

theorem before_total (first second : Sibling α) :
    (first.before second || second.before first) = true := by
  simp only [before, Bool.or_eq_true, Bool.and_eq_true, decide_eq_true_eq, beq_iff_eq]
  omega

def mapValue (change : α → β) (sibling : Sibling α) : Sibling β :=
  ⟨sibling.rank, sibling.token, change sibling.value⟩

theorem inOrder_mapValue (change : α → β) (siblings : List (Sibling α)) :
    inOrder (siblings.map (mapValue change)) = (inOrder siblings).map change := by
  have sorted : (siblings.mergeSort before).map (mapValue change) =
      (siblings.map (mapValue change)).mergeSort before :=
    List.map_mergeSort fun _ _ _ _ => rfl
  unfold inOrder
  rw [← sorted, List.map_map, List.map_map]
  rfl

theorem inOrder_perm (siblings : List (Sibling α)) :
    (inOrder siblings).Perm (siblings.map value) :=
  (List.mergeSort_perm siblings before).map value

theorem filter_inOrder (keep : α → Bool) (siblings : List (Sibling α)) :
    (inOrder siblings).filter keep =
      inOrder (siblings.filter fun sibling => keep sibling.value) := by
  unfold inOrder
  rw [List.filter_map, filter_mergeSort before_trans before_total]
  rfl

end Sibling

namespace RouteNode

def sibling (child : RouteNode) : Sibling RouteNode := ⟨child.specificity, child.token, child⟩

theorem sortedChildren_eq (node : RouteNode) :
    node.sortedChildren = Sibling.inOrder (node.children.map sibling) := rfl

theorem mem_sortedChildren {node child : RouteNode} :
    child ∈ node.sortedChildren ↔ child ∈ node.children := by
  rw [sortedChildren_eq, Sibling.inOrder, List.mem_map]
  constructor
  · rintro ⟨found, member, rfl⟩
    obtain ⟨child, listed, rfl⟩ := List.mem_map.1 (List.mem_mergeSort.1 member)
    exact listed
  · intro listed
    exact ⟨child.sibling, List.mem_mergeSort.2 (List.mem_map_of_mem listed), rfl⟩

theorem index_worse (rank : Route.Rank) : Route.Rank.index.worse rank = rank := by
  cases rank <;> rfl

theorem specificity_eq (node : RouteNode) :
    node.specificity =
      (Page.worstRank node.pages).worse
        (node.children.foldr (fun child worst => child.specificity.worse worst) .index) := by
  obtain ⟨token, layout, pages, children⟩ := node
  rw [specificity, specificityAll_eq]

theorem specificity_of_no_page {node : RouteNode} (none : node.holdsPage = false) :
    node.specificity = .index := by
  induction node using childrenFirst with
  | step token layout pages children ih =>
    rw [holdsPage, anyHoldsPage_eq, Bool.or_eq_false_iff, List.any_eq_false] at none
    have noPages : pages = [] := by simpa using none.1
    have noRank : children.foldr (fun child worst => child.specificity.worse worst) .index =
        .index := by
      have each : ∀ child ∈ children, child.specificity = .index := fun child member =>
        ih child member (by simpa using none.2 child member)
      clear ih none
      induction children with
      | nil => rfl
      | cons child rest below =>
        rw [List.foldr_cons, each child List.mem_cons_self, index_worse]
        exact below fun other member => each other (List.mem_cons_of_mem _ member)
    rw [specificity_eq, noPages, noRank]
    rfl

@[simp] theorem token_pruned (node : RouteNode) : node.pruned.token = node.token := by
  obtain ⟨token, layout, pages, children⟩ := node
  rw [pruned]

@[simp] theorem layout_pruned (node : RouteNode) : node.pruned.layout = node.layout := by
  obtain ⟨token, layout, pages, children⟩ := node
  rw [pruned]

@[simp] theorem pages_pruned (node : RouteNode) : node.pruned.pages = node.pages := by
  obtain ⟨token, layout, pages, children⟩ := node
  rw [pruned]

theorem children_pruned (node : RouteNode) :
    node.pruned.children = (node.children.filter holdsPage).map pruned := by
  obtain ⟨token, layout, pages, children⟩ := node
  rw [pruned, prunedAll_eq]

theorem specificity_pruned (node : RouteNode) : node.pruned.specificity = node.specificity := by
  induction node using childrenFirst with
  | step token layout pages children ih =>
    rw [specificity_eq, specificity_eq, pages_pruned, children_pruned]
    congr 1
    change ((children.filter holdsPage).map pruned).foldr _ _ = children.foldr _ _
    induction children with
    | nil => rfl
    | cons child rest below =>
      have others := below fun other member => ih other (List.mem_cons_of_mem _ member)
      by_cases holds : child.holdsPage = true
      · rw [List.filter_cons_of_pos holds, List.map_cons, List.foldr_cons, List.foldr_cons,
          ih child List.mem_cons_self, others]
      · have none := specificity_of_no_page (by simpa using holds : child.holdsPage = false)
        rw [List.filter_cons_of_neg holds, List.foldr_cons, none, index_worse, others]

/-- Pruning leaves the order of the children that remain. -/
theorem sortedChildren_pruned (node : RouteNode) :
    node.pruned.sortedChildren = (node.sortedChildren.filter holdsPage).map pruned := by
  have siblings : ((node.children.filter holdsPage).map pruned).map sibling =
      ((node.children.filter holdsPage).map sibling).map (Sibling.mapValue pruned) := by
    rw [List.map_map, List.map_map]
    apply List.map_congr_left
    intro child _
    simp [sibling, Sibling.mapValue, specificity_pruned]
  rw [sortedChildren_eq, sortedChildren_eq, children_pruned, siblings, Sibling.inOrder_mapValue,
    Sibling.filter_inOrder, List.filter_map]
  rfl

end RouteNode

end PageRoutes
