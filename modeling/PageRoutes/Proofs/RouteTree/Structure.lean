import Mathlib.Data.List.Nodup
import PageRoutes.Declaration.OfTree
import PageRoutes.Declaration.Outline
import PageRoutes.RouteTree.Pruning

/-! The structure of route trees.

A statement about all nodes is proved from the children to their parent. What is computed
for a list of children is computed for each of them, so that proofs see an operation on a
list. In a tree whose siblings have different tokens, a way down leads to exactly one node,
and the ways reach exactly the nodes of the walk.
-/

set_option autoImplicit false

namespace PageRoutes

namespace RouteNode

/-- What passes from the children of a node to the node holds of every node. -/
@[elab_as_elim]
theorem childrenFirst {motive : RouteNode → Prop}
    (step : ∀ token layout pages children, (∀ child ∈ children, motive child) →
      motive ⟨token, layout, pages, children⟩) (node : RouteNode) : motive node :=
  match node with
  | ⟨token, layout, pages, children⟩ =>
    step token layout pages children fun child _ => childrenFirst step child

theorem walkAll_eq (children : List RouteNode) : walkAll children = children.flatMap walk := by
  induction children with
  | nil => rfl
  | cons child rest ih => rw [walkAll, ih, List.flatMap_cons]

theorem anyHoldsPage_eq (children : List RouteNode) :
    anyHoldsPage children = children.any holdsPage := by
  induction children with
  | nil => rfl
  | cons child rest ih => rw [anyHoldsPage, ih, List.any_cons]

theorem prunedAll_eq (children : List RouteNode) :
    prunedAll children = (children.filter holdsPage).map pruned := by
  induction children with
  | nil => rfl
  | cons child rest ih =>
    by_cases holds : child.holdsPage
    · rw [prunedAll, if_pos holds, ih, List.filter_cons_of_pos holds, List.map_cons]
    · rw [prunedAll, if_neg holds, ih, List.filter_cons_of_neg holds]

theorem specificityAll_eq (children : List RouteNode) :
    specificityAll children =
      children.foldr (fun child worst => child.specificity.worse worst) .index := by
  induction children with
  | nil => rfl
  | cons child rest ih => rw [specificityAll, ih, List.foldr_cons]

/-- Every node of the tree has children with different tokens. -/
inductive Distinct : RouteNode → Prop where
  | node {token : String} {layout : Option Page} {pages : List Page} {children : List RouteNode} :
      (children.map RouteNode.token).Nodup → (∀ child ∈ children, Distinct child) →
      Distinct ⟨token, layout, pages, children⟩

theorem Distinct.tokens {node : RouteNode} (distinct : node.Distinct) :
    (node.children.map token).Nodup := by
  cases distinct with
  | node tokens _ => exact tokens

theorem Distinct.child {node child : RouteNode} (distinct : node.Distinct)
    (member : child ∈ node.children) : child.Distinct := by
  cases distinct with
  | node _ below => exact below child member

theorem distinct_empty (token : String) : (empty token).Distinct :=
  .node List.nodup_nil (fun _ member => nomatch member)

theorem token_of_child? {node child : RouteNode} {token : String}
    (found : node.child? token = some child) : child.token = token := by
  simpa using List.find?_some found

theorem mem_of_child? {node child : RouteNode} {token : String}
    (found : node.child? token = some child) : child ∈ node.children :=
  List.mem_of_find?_eq_some found

theorem child?_token {node child : RouteNode} (tokens : (node.children.map token).Nodup)
    (member : child ∈ node.children) : node.child? child.token = some child := by
  cases lookup : node.child? child.token with
  | none =>
    have missed := List.find?_eq_none.1 lookup child member
    simp at missed
  | some other =>
    have same := List.inj_on_of_nodup_map tokens (mem_of_child? lookup) member
      (token_of_child? lookup)
    rw [same]

@[simp] theorem get?_nil (node : RouteNode) : node.get? [] = some node := by
  rw [get?]

theorem get?_cons (node : RouteNode) (token : String) (rest : List String) :
    node.get? (token :: rest) = (node.child? token).bind fun child => child.get? rest := by
  rw [get?]

theorem get?_append (node : RouteNode) (first second : List String) :
    node.get? (first ++ second) = (node.get? first).bind fun reached => reached.get? second := by
  induction first generalizing node with
  | nil => simp
  | cons token rest ih =>
    rw [List.cons_append, get?_cons, get?_cons, Option.bind_assoc]
    exact congrArg _ (funext fun child => ih child)

theorem get?_singleton (node : RouteNode) (token : String) :
    node.get? [token] = node.child? token := by
  rw [get?_cons]
  cases node.child? token <;> simp

theorem get?_concat {root node child : RouteNode} {way : List String} {token : String}
    (reached : root.get? way = some node) (found : node.child? token = some child) :
    root.get? (way ++ [token]) = some child := by
  rw [get?_append, reached, Option.bind_some, get?_singleton, found]

theorem mem_walk_self (node : RouteNode) : node ∈ node.walk := by
  obtain ⟨token, layout, pages, children⟩ := node
  simp [walk]

theorem mem_walk_child {node child found : RouteNode} (member : child ∈ node.children)
    (below : found ∈ child.walk) : found ∈ node.walk := by
  obtain ⟨token, layout, pages, children⟩ := node
  rw [walk, walkAll_eq]
  exact List.mem_cons_of_mem _ (List.mem_flatMap.2 ⟨child, member, below⟩)

theorem mem_walk_iff {node found : RouteNode} :
    found ∈ node.walk ↔ found = node ∨ ∃ child ∈ node.children, found ∈ child.walk := by
  obtain ⟨token, layout, pages, children⟩ := node
  rw [walk, walkAll_eq, List.mem_cons, List.mem_flatMap]

theorem exists_get?_of_mem_walk {node found : RouteNode} (distinct : node.Distinct)
    (member : found ∈ node.walk) : ∃ way, node.get? way = some found := by
  induction node using childrenFirst with
  | step token layout pages children ih =>
    rcases mem_walk_iff.1 member with rfl | ⟨child, childMember, below⟩
    · exact ⟨[], get?_nil _⟩
    · obtain ⟨way, reached⟩ := ih child childMember (distinct.child childMember) below
      have lookup := child?_token distinct.tokens childMember
      exact ⟨child.token :: way, by rw [get?_cons, lookup, Option.bind_some, reached]⟩

end RouteNode

namespace Declaration

@[elab_as_elim]
theorem innerFirst {motive : Declaration → Prop} (index : ∀ component, motive (.index component))
    (page : ∀ path component, motive (.page path component))
    (group : ∀ path layout inner, (∀ declaration ∈ inner, motive declaration) →
      motive (.group path layout inner)) (declaration : Declaration) : motive declaration := by
  cases declaration with
  | index component => exact index component
  | page path component => exact page path component
  | group path layout inner =>
    apply group
    intro declaration member
    exact innerFirst index page group declaration
termination_by sizeOf declaration
decreasing_by
  have smaller := List.sizeOf_lt_of_mem member
  simp only [Declaration.group.sizeOf_spec]
  omega

theorem ofChildren_eq (children : List RouteNode) :
    ofChildren children =
      children.map fun child => ⟨child.specificity, child.token, ofNode false child⟩ := by
  induction children with
  | nil => rfl
  | cons child rest ih => rw [ofChildren, ih, List.map_cons]

theorem renderInner_eq (inner : List Declaration) :
    renderInner inner = inner.map fun declaration => Text.indent indentWidth declaration.render := by
  induction inner with
  | nil => rfl
  | cons first rest ih => rw [renderInner, ih, List.map_cons]

theorem outlineAll_eq (depth : Nat) (declarations : List Declaration) :
    outlineAll depth declarations = declarations.flatMap (outline depth) := by
  induction declarations with
  | nil => rfl
  | cons first rest ih => rw [outlineAll, ih, List.flatMap_cons]

end Declaration

end PageRoutes
