import PageRoutes.Proofs.FileTree.Entries
import PageRoutes.Proofs.FileTree.MadeDirectories
import PageRoutes.Path.Relative

/-! Trees without symbolic links.

There a path leads where its names say, a double dot to the directory above. Edits that make no link
leave no link behind.
-/

set_option autoImplicit false

namespace PageRoutes.FileTree

/-- No symbolic link stands anywhere. -/
def LinkFree (tree : FileTree) : Prop :=
  ∀ location target, tree.get? location ≠ some (.link target)

variable {tree other : FileTree} {start here location directory : Location} {path : Path}
  {followLast : Bool} {links : Nat} {names : List Name}

theorem linkFree_empty : LinkFree empty := by
  intro location target stands
  unfold get? at stands
  split at stands <;> cases stands

theorem LinkFree.addsDirectories (free : LinkFree tree) (adds : AddsDirectories tree other) :
    LinkFree other := by
  intro location target stands
  rcases adds location with same | ⟨_, made⟩
  · exact free location target (same.symm.trans stands)
  · rw [made] at stands
    cases stands

theorem LinkFree.place {entry : Entry} (free : LinkFree tree) (below : location ≠ [])
    (plain : ∀ target, entry ≠ .link target) : LinkFree (tree.place location entry) := by
  intro other target stands
  by_cases here : location = other
  · rw [← here, get?_place_self _ _ _ below] at stands
    exact plain target (Option.some.inj stands)
  · rw [get?_place_of_ne _ _ here] at stands
    exact free other target stands

theorem LinkFree.restrict (free : LinkFree tree) (keeps : Location → Bool) :
    LinkFree (tree.restrict keeps) := by
  intro location target stands
  by_cases below : location = []
  · rw [below, get?, if_pos rfl] at stands
    cases stands
  · rw [get?_restrict _ _ below] at stands
    split at stands
    · exact free location target stands
    · cases stands

theorem ne_nil_of_get? (noDirectory : tree.get? location ≠ some .directory) : location ≠ [] := by
  rintro rfl
  exact noDirectory (if_pos rfl)

theorem LinkFree.writeFile {content : ByteArray} (free : LinkFree tree)
    (wrote : tree.writeFile start path content = .ok other) : LinkFree other := by
  unfold FileTree.writeFile at wrote
  split at wrote
  · cases wrote
  · cases wrote
    exact free.place (by simp) nofun
  · rename_i location _
    split at wrote
    · cases wrote
    · rename_i noDirectory
      cases wrote
      exact free.place (ne_nil_of_get? noDirectory) nofun

theorem LinkFree.edit {edit : Edit} (free : LinkFree tree)
    (plain : ∀ path target, edit ≠ .link path target) : LinkFree (tree.edit start edit) := by
  have prepared := fun path =>
    free.addsDirectories (addsDirectories_makeDirectories tree start path)
  cases edit with
  | file path content =>
    rw [FileTree.edit]
    cases wrote : (tree.makeDirectories start path.parent).tree.writeFile start path content with
    | error error => exact prepared path.parent
    | ok written => exact (prepared path.parent).writeFile wrote
  | directory path => exact prepared path
  | link path target => exact absurd rfl (plain path target)
  | remove path =>
    rw [FileTree.edit, remove]
    split
    · exact free
    · exact free
    · rename_i location _
      exact free.restrict fun other => !location.isPrefixOf other

theorem LinkFree.edits {edits : List Edit} (free : LinkFree tree)
    (plain : ∀ path target, Edit.link path target ∉ edits) :
    LinkFree (edits.foldl (fun tree edit => tree.edit start edit) tree) := by
  induction edits generalizing tree with
  | nil => exact free
  | cons edit rest ih =>
    refine ih (free.edit fun path target same => ?_) fun path target later => ?_
    · exact plain path target (same ▸ List.mem_cons_self)
    · exact plain path target (List.mem_cons_of_mem _ later)

theorem unlistable_edit (tree : FileTree) (start : Location) (edit : Edit) :
    (tree.edit start edit).unlistable = tree.unlistable := by
  have prepared := unlistable_makeDirectories tree start
  cases edit with
  | file path content =>
    rw [edit, writeFile, ← prepared path.parent]
    split
    · rfl
    · rfl
    · split <;> rfl
  | directory path => exact prepared path
  | link path target =>
    rw [edit, makeLink, ← prepared path.parent]
    split <;> rfl
  | remove path =>
    rw [edit, remove]
    split <;> rfl

theorem unlistable_edits (tree : FileTree) (start : Location) (edits : List Edit) :
    (edits.foldl (fun tree edit => tree.edit start edit) tree).unlistable = tree.unlistable := by
  induction edits generalizing tree with
  | nil => rfl
  | cons edit rest ih => rw [List.foldl_cons, ih, unlistable_edit]

theorem Leads.eq_descend (free : LinkFree tree)
    (leads : Leads tree followLast links here names (.found location)) :
    location = names.foldl Path.descend here := by
  generalize aim : Target.found location = goal at leads
  induction leads with
  | arrived =>
    cases aim
    rfl
  | up _ ih => simpa [Path.descend] using ih aim
  | free _ _ _ => cases aim
  | down down _ _ _ ih => simpa [Path.descend, down] using ih aim
  | file down _ _ =>
    cases aim
    simp [Path.descend, down]
  | link _ _ passed _ => exact absurd passed (free _ _)
  | through _ _ passed _ _ _ => exact absurd passed (free _ _)

/-- An absolute path leads to the directory of its collapsed names, if to any. -/
theorem LinkFree.directoryAt?_eq (free : LinkFree tree) (absolute : path.IsAbsolute)
    (reached : tree.directoryAt? start path = some directory) :
    directory = Path.collapse path.names := by
  have leads := (locate_eq_ok_iff.1 (directoryAt?_eq_some_iff.1 reached).1).2.2
  rw [if_pos absolute] at leads
  exact leads.eq_descend free

end PageRoutes.FileTree
