import PageRoutes.Proofs.RouteTree.Contents

/-! The pages of a route tree, each with the way to its node.

Attaching a page whose source is new to its node adds this page with its way and moves no
other. So the tree of different files holds every file that is no layout, once, at the way of
its tokens.
-/

set_option autoImplicit false

namespace PageRoutes

namespace RouteNode

mutual

def located : RouteNode → List (List String × Page)
  | ⟨_, _, pages, children⟩ => pages.map (fun page => ([], page)) ++ locatedAll children

def locatedAll : List RouteNode → List (List String × Page)
  | [] => []
  | child :: rest =>
    child.located.map (fun (way, page) => (child.token :: way, page)) ++ locatedAll rest

end

theorem locatedAll_eq (children : List RouteNode) :
    locatedAll children = children.flatMap fun child =>
      child.located.map fun (way, page) => (child.token :: way, page) := by
  induction children with
  | nil => rfl
  | cons child rest ih => rw [locatedAll, ih, List.flatMap_cons]

theorem located_eq (node : RouteNode) :
    node.located = node.pages.map (fun page => ([], page)) ++ locatedAll node.children := by
  obtain ⟨token, layout, pages, children⟩ := node
  rw [located]

end RouteNode

theorem placePage_of_new {page : Page} {pages : List Page}
    (new : page.source ∉ pages.map Page.source) : placePage page pages = pages ++ [page] := by
  induction pages with
  | nil => rfl
  | cons other rest ih =>
    simp only [List.map_cons, List.mem_cons, not_or] at new
    rw [placePage, if_neg (Ne.symm new.1), ih new.2, List.cons_append]

namespace RouteNode

theorem locatedAll_changeChild {change : RouteNode → RouteNode}
    (keeps : ∀ node, (change node).token = node.token) {token : String}
    {added : List (List String × Page)} {children : List RouteNode}
    (grows : let child := (children.find? fun child => child.token = token).getD (empty token)
      (change child).located.Perm (added ++ child.located)) :
    (locatedAll (changeChild token change children)).Perm
      (added.map (fun (way, page) => (token :: way, page)) ++ locatedAll children) := by
  induction children with
  | nil =>
    have step := grows.map fun (way, page) => (token :: way, page)
    rw [List.map_append] at step
    simpa [changeChild, locatedAll, keeps, empty, located] using step
  | cons child rest ih =>
    by_cases here : child.token = token
    · have found : (child :: rest).find? (fun child => child.token = token) = some child := by
        simp [here]
      rw [found] at grows
      have step := grows.map fun (way, page) => (token :: way, page)
      rw [List.map_append] at step
      rw [changeChild, if_pos here, locatedAll, locatedAll, keeps, here, ← List.append_assoc]
      exact step.append_right _
    · have passed : (child :: rest).find? (fun child => child.token = token) =
          rest.find? fun child => child.token = token := by
        simp [here]
      rw [passed] at grows
      rw [changeChild, if_neg here, locatedAll, locatedAll]
      refine ((ih grows).append_left _).trans ?_
      rw [← List.append_assoc, ← List.append_assoc]
      exact List.perm_append_comm.append_right _

theorem located_changeAt {change : RouteNode → RouteNode}
    (keeps : ∀ node, (change node).token = node.token) {way : List String} {node : RouteNode}
    (added : List Page)
    (grows : (change (node.slot way)).located.Perm
      (added.map (fun page => ([], page)) ++ (node.slot way).located)) :
    (changeAt change way node).located.Perm
      (added.map (fun page => (way, page)) ++ node.located) := by
  induction way generalizing node with
  | nil =>
    rw [slot_nil] at grows
    exact grows
  | cons token rest ih =>
    rw [slot_cons] at grows
    have below := locatedAll_changeChild (token_changeAt keeps rest) (ih grows)
    rw [List.map_map] at below
    rw [located_eq, located_eq node]
    refine (List.Perm.append_left _ below).trans ?_
    rw [← List.append_assoc, ← List.append_assoc]
    exact List.perm_append_comm.append_right _

theorem located_attach_layout {page : Page} (layout : page.isLayout = true) (node : RouteNode) :
    (node.attach page).located = node.located := by
  rw [located_eq, located_eq node, attach, if_pos layout]

theorem located_attach_page {page : Page} (routed : page.isLayout = false) {node : RouteNode}
    (new : page.source ∉ node.pages.map Page.source) :
    (node.attach page).located.Perm ([([], page)] ++ node.located) := by
  rw [located_eq, located_eq node, attach, if_neg (by simp [routed]), placePage_of_new new,
    List.map_append, ← List.append_assoc]
  exact List.perm_append_comm.append_right _

end RouteNode

namespace RouteTree

open RouteNode

variable {workingDirectory pagesDirectory : Path}

theorem mem_latest {pages : List Page} {page : Page} (member : page ∈ Page.latest pages) :
    page ∈ pages := by
  obtain ⟨source, _, found⟩ := List.mem_filterMap.1 member
  exact (List.mem_filter.1 (List.mem_of_getLast? found)).1

theorem mem_pagesAt {files : List Page} {tokens : List String} {page : Page}
    (member : page ∈ pagesAt workingDirectory pagesDirectory files tokens) :
    page ∈ files ∧ tokensOf workingDirectory pagesDirectory page = tokens ∧
      page.isLayout = false := by
  have own := mem_latest member
  simp only [filesAt, List.mem_filter, decide_eq_true_eq, Bool.not_eq_true'] at own
  exact ⟨own.1.1, own.1.2, own.2⟩

variable (workingDirectory pagesDirectory)

/-- The tree of files with different sources holds those that are no layouts, each once. -/
theorem located_grown (files : List Page) (different : (files.map Page.source).Nodup) :
    (grown workingDirectory pagesDirectory files).located.Perm
      ((files.filter fun page => !page.isLayout).map fun page =>
        (tokensOf workingDirectory pagesDirectory page, page)) := by
  induction files using List.reverseRecOn with
  | nil => exact List.Perm.refl _
  | append_singleton files page ih =>
    rw [List.map_append, List.map_singleton] at different
    have parts := List.nodup_append.1 different
    have earlier := ih parts.1
    rw [grown_concat, RouteTree.insert, List.filter_append, List.map_append]
    cases layout : page.isLayout with
    | true =>
      have same := located_changeAt (token_attach · page) []
        (List.Perm.of_eq (located_attach_layout layout
          ((grown workingDirectory pagesDirectory files).slot
            (tokensOf workingDirectory pagesDirectory page))))
      simpa [layout] using same.trans earlier
    | false =>
      have described := describes_slot_grown workingDirectory pagesDirectory files
        (tokensOf workingDirectory pagesDirectory page)
      -- The page is added at the end of its node, since no page there has the same source.
      have new : page.source ∉ ((grown workingDirectory pagesDirectory files).slot
          (tokensOf workingDirectory pagesDirectory page)).pages.map Page.source := by
        intro member
        obtain ⟨other, found, same⟩ := List.mem_map.1 member
        rw [described.pages] at found
        exact parts.2.2 _ (List.mem_map_of_mem (mem_pagesAt found).1) _ List.mem_cons_self same
      have added := located_changeAt (token_attach · page) [page]
        (located_attach_page layout new)
      refine added.trans ?_
      refine ((List.Perm.append_left _ earlier).trans List.perm_append_comm).trans ?_
      simp [layout]

end RouteTree

end PageRoutes
