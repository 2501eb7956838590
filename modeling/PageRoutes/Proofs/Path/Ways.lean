import Mathlib.Data.List.Induction
import PageRoutes.Path.Relative

/-! Relative ways lead to their targets.

A relative way goes up out of the names that only the start has, and from there down to the
target. What start and target share is neither left nor entered. Main statement: behind the
absolute form of the start, the way collapses to the absolute form of the target, however both
are written.
-/

set_option autoImplicit false

namespace PageRoutes.Path

theorem foldl_descend_replicate_up (above back : List Name) :
    (List.replicate back.length Name.up).foldl descend (above ++ back) = above := by
  induction back using List.reverseRecOn with
  | nil => simp
  | append_singleton back name ih =>
    have leave : descend (above ++ (back ++ [name])) Name.up = above ++ back := by
      simp [descend, ← List.append_assoc]
    rw [List.length_append, List.length_singleton, List.replicate_succ, List.foldl_cons, leave, ih]

theorem foldl_descend_append {names : List Name} (free : Name.up ∉ names)
    (before reached : List Name) :
    (before ++ names).foldl descend reached = before.foldl descend reached ++ names := by
  rw [List.foldl_append]
  exact foldl_descend_of_no_up names (fun name member same => free (same ▸ member)) _

/-- The steps from one directory to another one, below whatever they have above them. -/
theorem foldl_descend_steps (above start : List Name) {target : List Name}
    (free : Name.up ∉ target) :
    (steps start target).foldl descend (above ++ start) = above ++ target := by
  fun_induction steps start target generalizing above with
  | case1 start shared target ih =>
    -- A shared name is above both.
    rw [List.append_cons above shared start, List.append_cons above shared target]
    exact ih (above ++ [shared]) fun member => free (List.mem_cons_of_mem _ member)
  | case2 first start second target apart =>
    have back := foldl_descend_replicate_up above (first :: start)
    rw [foldl_descend_append free]
    exact congrArg (· ++ second :: target) back
  | case3 start target ended =>
    rw [foldl_descend_append free, foldl_descend_replicate_up]

/-- A relative way collapses to its target behind the directory that it starts from. -/
theorem collapse_relativeNames (workingDirectory target start : Path) :
    collapse ((workingDirectory.join start).names ++ relativeNames workingDirectory target start) =
      absoluteNames workingDirectory target := by
  rw [collapse_append]
  exact foldl_descend_steps [] _ (up_not_mem_collapse _)

end PageRoutes.Path
