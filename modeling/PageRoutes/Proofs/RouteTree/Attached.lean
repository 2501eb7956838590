import Mathlib.Data.List.Perm.Subperm
import PageRoutes.Proofs.RouteTree.Contents

/-! The files that a route tree holds, layouts and pages alike.

A file that is attached may take the place of another one, so a change adds at most the file to
what is attached already. Hence a tree holds its files at most as often as they were listed.
-/

set_option autoImplicit false

namespace PageRoutes

theorem placePage_subperm (page : Page) (pages : List Page) :
    (placePage page pages).Subperm (page :: pages) := by
  induction pages with
  | nil => exact List.Subperm.refl _
  | cons other rest ih =>
    rw [placePage]
    split
    · exact ((List.sublist_cons_self other rest).cons_cons page).subperm
    · exact ((List.subperm_cons other).2 ih).trans (List.Perm.swap page other rest).subperm

namespace RouteNode

def attached (node : RouteNode) : List Page :=
  node.walk.flatMap fun found => found.layout.toList ++ found.pages

theorem attached_eq (node : RouteNode) :
    node.attached = node.layout.toList ++ (node.pages ++ node.children.flatMap attached) := by
  obtain ⟨token, layout, pages, children⟩ := node
  rw [attached, walk, walkAll_eq, List.flatMap_cons, List.flatMap_assoc, List.append_assoc]
  rfl

theorem attached_empty (token : String) : (empty token).attached = [] := rfl

theorem attached_attach (page : Page) (node : RouteNode) :
    (node.attach page).attached.Subperm (page :: node.attached) := by
  rw [attached_eq, attached_eq node, attach]
  split
  · -- The layout before, if there is one, is gone.
    exact ((List.sublist_append_right node.layout.toList _).cons_cons page).subperm
  · refine ((List.subperm_append_left node.layout.toList).2
      ((List.subperm_append_right (node.children.flatMap attached)).2
        (placePage_subperm page node.pages))).trans ?_
    exact List.perm_middle.subperm

theorem attached_changeChild {change : RouteNode → RouteNode} {page : Page}
    (adds : ∀ node, (change node).attached.Subperm (page :: node.attached)) (token : String)
    (children : List RouteNode) :
    ((changeChild token change children).flatMap attached).Subperm
      (page :: children.flatMap attached) := by
  induction children with
  | nil =>
    have fresh := adds (empty token)
    rw [attached_empty] at fresh
    simpa [changeChild] using fresh
  | cons child rest ih =>
    rw [changeChild, List.flatMap_cons]
    split
    · rw [List.flatMap_cons]
      exact (List.subperm_append_right (rest.flatMap attached)).2 (adds child)
    · rw [List.flatMap_cons]
      exact ((List.subperm_append_left child.attached).2 ih).trans List.perm_middle.subperm

theorem attached_changeAt (page : Page) (way : List String) (node : RouteNode) :
    (changeAt (·.attach page) way node).attached.Subperm (page :: node.attached) := by
  induction way generalizing node with
  | nil => exact attached_attach page node
  | cons token rest ih =>
    rw [attached_eq, attached_eq node, changeAt]
    have below := attached_changeChild ih token node.children
    refine ((List.subperm_append_left node.layout.toList).2
      ((List.subperm_append_left node.pages).2 below)).trans ?_
    rw [← List.append_assoc, ← List.append_assoc]
    exact List.perm_middle.subperm

end RouteNode

namespace RouteTree

/-- No file is attached more often than it is listed. -/
theorem attached_grown (workingDirectory pagesDirectory : Path) (files : List Page) :
    (grown workingDirectory pagesDirectory files).attached.Subperm files := by
  induction files using List.reverseRecOn with
  | nil => exact List.Subperm.refl _
  | append_singleton files page ih =>
    rw [grown_concat, RouteTree.insert]
    refine (RouteNode.attached_changeAt page _ _).trans ?_
    exact ((List.subperm_cons page).2 ih).trans (List.perm_append_singleton page files).symm.subperm

end RouteTree

end PageRoutes
