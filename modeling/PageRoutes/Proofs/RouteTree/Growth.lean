import PageRoutes.Proofs.RouteTree.Structure

/-! How a change at the end of a way shows in a route tree.

A change of one node is seen on every way that leads towards it and on no other. Missing
nodes are created empty on the way, so a way leads to what the change finds there, the slot
of the way. Changes keep the tokens of siblings different.
-/

set_option autoImplicit false

namespace PageRoutes.RouteNode

/-- The node at the end of a way as a change finds it: one that is missing is empty. -/
def slot (node : RouteNode) (way : List String) : RouteNode :=
  (node.get? way).getD (empty (way.getLastD node.token))

@[simp] theorem slot_nil (node : RouteNode) : node.slot [] = node := by
  simp [slot]

theorem slot_of_get? {node found : RouteNode} {way : List String}
    (reached : node.get? way = some found) : node.slot way = found := by
  rw [slot, reached, Option.getD_some]

@[simp] theorem token_attach (node : RouteNode) (page : Page) :
    (node.attach page).token = node.token := by
  unfold attach
  split <;> rfl

@[simp] theorem children_attach (node : RouteNode) (page : Page) :
    (node.attach page).children = node.children := by
  unfold attach
  split <;> rfl

theorem token_changeAt {change : RouteNode → RouteNode}
    (keeps : ∀ node, (change node).token = node.token) (way : List String) (node : RouteNode) :
    (changeAt change way node).token = node.token := by
  cases way with
  | nil => exact keeps node
  | cons token rest => rfl

theorem find?_changeChild {change : RouteNode → RouteNode}
    (keeps : ∀ node, (change node).token = node.token) (token other : String)
    (children : List RouteNode) :
    (changeChild token change children).find? (fun child => child.token = other) =
      if other = token then
        some (change ((children.find? fun child => child.token = token).getD (empty token)))
      else children.find? fun child => child.token = other := by
  induction children with
  | nil =>
    by_cases same : other = token
    · subst same
      simp [changeChild, keeps, empty]
    · simp [changeChild, keeps, empty, same, Ne.symm same]
  | cons child rest ih =>
    by_cases here : child.token = token
    · by_cases same : other = token
      · subst same
        simp [changeChild, here, keeps]
      · simp [changeChild, here, keeps, same, Ne.symm same]
    · rw [changeChild, if_neg here, List.find?_cons, ih, List.find?_cons, List.find?_cons]
      by_cases same : other = token
      · subst same
        simp [here]
      · simp [same]

theorem child?_changeAt {change : RouteNode → RouteNode}
    (keeps : ∀ node, (change node).token = node.token) (token other : String)
    (rest : List String) (node : RouteNode) :
    (changeAt change (token :: rest) node).child? other =
      if other = token then
        some (changeAt change rest ((node.child? token).getD (empty token)))
      else node.child? other :=
  find?_changeChild (token_changeAt keeps rest) token other node.children

theorem map_token_changeChild {change : RouteNode → RouteNode}
    (keeps : ∀ node, (change node).token = node.token) (token : String)
    (children : List RouteNode) :
    (changeChild token change children).map RouteNode.token =
      if token ∈ children.map RouteNode.token then children.map RouteNode.token
      else children.map RouteNode.token ++ [token] := by
  induction children with
  | nil => simp [changeChild, keeps, empty]
  | cons child rest ih =>
    by_cases here : child.token = token
    · simp [changeChild, here, keeps]
    · rw [changeChild, if_neg here, List.map_cons, ih, List.map_cons]
      by_cases below : token ∈ rest.map RouteNode.token
      · rw [if_pos below, if_pos (List.mem_cons_of_mem _ below)]
      · have nowhere : token ∉ child.token :: rest.map RouteNode.token := by
          simp only [List.mem_cons, not_or]
          exact ⟨Ne.symm here, below⟩
        rw [if_neg below, if_neg nowhere, List.cons_append]

theorem slot_cons (node : RouteNode) (token : String) (rest : List String) :
    node.slot (token :: rest) = ((node.child? token).getD (empty token)).slot rest := by
  cases lookup : node.child? token with
  | none =>
    rw [slot, get?_cons, lookup, Option.bind_none, Option.getD_none, Option.getD_none]
    cases rest with
    | nil => simp
    | cons next others =>
      have missing : (empty token).child? next = none := rfl
      rw [slot, get?_cons, missing, Option.bind_none, Option.getD_none]
      simp only [List.getLastD_cons]
  | some child =>
    rw [slot, get?_cons, lookup, Option.bind_some, Option.getD_some, slot, token_of_child? lookup,
      List.getLastD_cons]

theorem token_slot (node : RouteNode) (way : List String) :
    (node.slot way).token = way.getLastD node.token := by
  induction way generalizing node with
  | nil => rw [slot_nil, List.getLastD_nil]
  | cons token rest ih =>
    rw [slot_cons, ih, List.getLastD_cons]
    cases lookup : node.child? token with
    | none => rfl
    | some child => rw [Option.getD_some, token_of_child? lookup]

theorem get?_changeAt_append {change : RouteNode → RouteNode}
    (keeps : ∀ node, (change node).token = node.token) (way rest : List String)
    (node : RouteNode) :
    (changeAt change (way ++ rest) node).get? way = some (changeAt change rest (node.slot way)) := by
  induction way generalizing node with
  | nil => simp
  | cons token others ih =>
    rw [List.cons_append, get?_cons, child?_changeAt keeps, if_pos rfl, Option.bind_some, ih,
      slot_cons]

theorem get?_changeAt_of_apart {change : RouteNode → RouteNode}
    (keeps : ∀ node, (change node).token = node.token)
    (holds : ∀ node, (change node).children = node.children) {way other : List String}
    (apart : ¬ other <+: way) (node : RouteNode) :
    (changeAt change way node).get? other = node.get? other := by
  induction way generalizing node other with
  | nil =>
    cases other with
    | nil => exact absurd (List.prefix_refl _) apart
    | cons token rest =>
      rw [get?_cons, get?_cons, child?, changeAt, holds, child?]
  | cons token rest ih =>
    cases other with
    | nil => exact absurd List.nil_prefix apart
    | cons first others =>
      rw [get?_cons, get?_cons, child?_changeAt keeps]
      by_cases same : first = token
      · subst same
        have below : ¬ others <+: rest := fun towards =>
          apart ((List.prefix_cons_inj first).2 towards)
        rw [if_pos rfl, Option.bind_some, ih below]
        cases lookup : node.child? first with
        | none =>
          -- Below a new node there is nothing yet.
          cases others with
          | nil => exact absurd List.nil_prefix below
          | cons next tail => rfl
        | some child => rfl
      · rw [if_neg same]

theorem slot_changeAt_append {change : RouteNode → RouteNode}
    (keeps : ∀ node, (change node).token = node.token) (way rest : List String)
    (node : RouteNode) :
    (changeAt change (way ++ rest) node).slot way = changeAt change rest (node.slot way) :=
  slot_of_get? (get?_changeAt_append keeps way rest node)

theorem slot_changeAt_self {change : RouteNode → RouteNode}
    (keeps : ∀ node, (change node).token = node.token) (way : List String) (node : RouteNode) :
    (changeAt change way node).slot way = change (node.slot way) := by
  simpa only [List.append_nil, changeAt] using slot_changeAt_append keeps way [] node

theorem slot_changeAt_of_apart {change : RouteNode → RouteNode}
    (keeps : ∀ node, (change node).token = node.token)
    (holds : ∀ node, (change node).children = node.children) {way other : List String}
    (apart : ¬ other <+: way) (node : RouteNode) :
    (changeAt change way node).slot other = node.slot other := by
  rw [slot, slot, get?_changeAt_of_apart keeps holds apart, token_changeAt keeps]

/-- A node is at the end of the way to a change, above it, or off the way. -/
theorem slot_changeAt_cases {change : RouteNode → RouteNode}
    (keeps : ∀ node, (change node).token = node.token)
    (holds : ∀ node, (change node).children = node.children) (way other : List String)
    (node : RouteNode) :
    let after := (changeAt change way node).slot other
    (way = other ∧ after = change (node.slot other)) ∨
    (∃ token rest, way = other ++ token :: rest ∧
      after = changeAt change (token :: rest) (node.slot other)) ∨
    (¬ other <+: way ∧ after = node.slot other) := by
  intro after
  by_cases towards : other <+: way
  · obtain ⟨rest, rfl⟩ := towards
    have changed : after = changeAt change rest (node.slot other) :=
      slot_changeAt_append keeps other rest node
    cases rest with
    | nil => exact .inl ⟨List.append_nil other, changed⟩
    | cons token others => exact .inr (.inl ⟨token, others, rfl, changed⟩)
  · exact .inr (.inr ⟨towards, slot_changeAt_of_apart keeps holds towards node⟩)

theorem nodup_map_token_changeChild {change : RouteNode → RouteNode}
    (keeps : ∀ node, (change node).token = node.token) (token : String)
    {children : List RouteNode} (tokens : (children.map RouteNode.token).Nodup) :
    ((changeChild token change children).map RouteNode.token).Nodup := by
  rw [map_token_changeChild keeps]
  split
  · exact tokens
  · rename_i absent
    exact List.nodup_append.2 ⟨tokens, List.nodup_singleton _, fun first member second last same =>
      absent (List.mem_singleton.1 last ▸ same ▸ member)⟩

theorem mem_changeChild {change : RouteNode → RouteNode} {token : String}
    {children : List RouteNode} {found : RouteNode}
    (member : found ∈ changeChild token change children) :
    found ∈ children ∨ found = change (empty token) ∨ ∃ child ∈ children, found = change child := by
  induction children with
  | nil => exact .inr (.inl (List.mem_singleton.1 member))
  | cons child rest ih =>
    by_cases here : child.token = token
    · rw [changeChild, if_pos here] at member
      rcases List.mem_cons.1 member with same | below
      · exact .inr (.inr ⟨child, List.mem_cons_self, same⟩)
      · exact .inl (List.mem_cons_of_mem _ below)
    · rw [changeChild, if_neg here] at member
      rcases List.mem_cons.1 member with same | below
      · exact .inl (same ▸ List.mem_cons_self)
      · rcases ih below with old | fresh | ⟨changed, old, same⟩
        · exact .inl (List.mem_cons_of_mem _ old)
        · exact .inr (.inl fresh)
        · exact .inr (.inr ⟨changed, List.mem_cons_of_mem _ old, same⟩)

theorem distinct_changeAt {change : RouteNode → RouteNode}
    (keeps : ∀ node, (change node).token = node.token)
    (sound : ∀ node, node.Distinct → (change node).Distinct) (way : List String)
    {node : RouteNode} (distinct : node.Distinct) : (changeAt change way node).Distinct := by
  induction way generalizing node with
  | nil => exact sound node distinct
  | cons token rest ih =>
    refine .node (nodup_map_token_changeChild (token_changeAt keeps rest) token distinct.tokens)
      fun child member => ?_
    rcases mem_changeChild member with old | rfl | ⟨changed, old, rfl⟩
    · exact distinct.child old
    · exact ih (distinct_empty token)
    · exact ih (distinct.child old)

theorem distinct_attach (page : Page) {node : RouteNode} (distinct : node.Distinct) :
    (node.attach page).Distinct := by
  obtain ⟨token, layout, pages, children⟩ := node
  unfold attach
  split
  · exact .node distinct.tokens fun child member => distinct.child member
  · exact .node distinct.tokens fun child member => distinct.child member

end PageRoutes.RouteNode

namespace PageRoutes.RouteTree

open RouteNode

variable (workingDirectory pagesDirectory : Path)

theorem distinct_ofFiles (sources : List Path) :
    (ofFiles workingDirectory pagesDirectory sources).root.Distinct := by
  have grown : ∀ (files : List Page) (root : RouteNode), root.Distinct →
      (files.foldl (insert workingDirectory pagesDirectory) root).Distinct := by
    intro files
    induction files with
    | nil => exact fun root distinct => distinct
    | cons page rest ih =>
      intro root distinct
      exact ih _ (distinct_changeAt (token_attach · page) (fun _ => distinct_attach page) _ distinct)
  exact grown _ _ (distinct_empty _)

end PageRoutes.RouteTree
