import PageRoutes.Proofs.FileTree.Entries
import PageRoutes.Proofs.FileTree.MadeDirectories
import PageRoutes.Proofs.Path.Written

/-! Trees in which everything stands in a directory.

A list of entries by location need not be one, but what a file system holds is. There a way that
arrives has passed through directories only. So a path with one more name leads on from the
directory that the path itself leads to, and making directories fails only where the path leads
to no directory in the end.
-/

set_option autoImplicit false

namespace PageRoutes.FileTree

/-- Everything stands in a directory, and what may not be listed is a directory. -/
structure Grounded (tree : FileTree) : Prop where
  inside : ∀ {location name entry}, tree.get? (location ++ [name]) = some entry →
    tree.get? location = some .directory
  unlistable : ∀ location ∈ tree.unlistable, tree.get? location = some .directory

variable {tree other : FileTree} {start here directory location : Location} {followLast : Bool}
  {links : Nat} {names rest : List Name} {name : Name} {goal : Target} {entry : Entry}

theorem get?_root (tree : FileTree) : tree.get? [] = some .directory := if_pos rfl

theorem get?_origin {absolute : Prop} [Decidable absolute]
    (stands : tree.get? here = some .directory) :
    tree.get? (if absolute then [] else here) = some .directory := by
  split
  · exact get?_root tree
  · exact stands

theorem grounded_iff : Grounded tree ↔
    (∀ found ∈ tree.entries, tree.get? found.1.dropLast = some .directory) ∧
      ∀ location ∈ tree.unlistable, tree.get? location = some .directory := by
  constructor
  · intro grounded
    refine ⟨fun found member => ?_, grounded.unlistable⟩
    obtain ⟨location, entry⟩ := found
    obtain ⟨_, stands⟩ := Option.isSome_iff_exists.1 (isSome_get?_of_mem member)
    rcases List.eq_nil_or_concat location with rfl | ⟨front, last, rfl⟩
    · exact get?_root tree
    · rw [List.concat_eq_append] at stands ⊢
      rw [List.dropLast_concat]
      exact grounded.inside stands
  · rintro ⟨inside, unlistable⟩
    refine ⟨fun {location name entry} stands => ?_, unlistable⟩
    simpa using inside _ (mem_entries_of_get? (by simp) stands)

instance (tree : FileTree) : Decidable (Grounded tree) := decidable_of_iff _ grounded_iff.symm

theorem Grounded.dropLast (grounded : Grounded tree) (stands : tree.get? here = some .directory) :
    tree.get? here.dropLast = some .directory := by
  rcases List.eq_nil_or_concat here with rfl | ⟨front, last, rfl⟩
  · exact stands
  · rw [List.concat_eq_append] at stands ⊢
    rw [List.dropLast_concat]
    exact grounded.inside stands

theorem Grounded.above (grounded : Grounded tree) (below : rest ≠ [])
    (stands : tree.get? (location ++ rest) = some entry) :
    tree.get? location = some .directory := by
  induction rest generalizing location with
  | nil => exact absurd rfl below
  | cons name rest ih =>
    rw [List.append_cons] at stands
    cases rest with
    | nil =>
      rw [List.append_nil] at stands
      exact grounded.inside stands
    | cons next rest => exact grounded.inside (ih (List.cons_ne_nil _ _) stands)

theorem Leads.directory_of_free (grounded : Grounded tree)
    (stands : tree.get? here = some .directory)
    (leads : Leads tree followLast links here names (.free directory name)) :
    tree.get? directory = some .directory := by
  generalize aim : Target.free directory name = goal at leads
  induction leads with
  | free _ _ _ =>
    cases aim
    exact stands
  | up _ ih => exact ih (grounded.dropLast stands) aim
  | down _ _ passed _ ih => exact ih passed aim
  | through _ _ _ _ _ _ ih => exact ih (get?_origin stands) aim
  | arrived => cases aim
  | file _ _ _ => cases aim
  | link _ _ _ _ => cases aim

/-- A way with one more name leads to a directory first, and the links that it takes are those up to
there and those from there on. -/
theorem Leads.cut (grounded : Grounded tree) (stands : tree.get? here = some .directory)
    (leads : Leads tree followLast links here (names ++ [name]) goal) :
    ∃ directory used left, used + left = links ∧
      Leads tree true used here names (.found directory) ∧
      tree.get? directory = some .directory ∧
      Leads tree followLast left directory [name] goal := by
  -- Each step takes the last name, or one in front of it and leaves the rest to the induction.
  generalize whole : names ++ [name] = all at leads
  induction leads generalizing names with
  | arrived => simp at whole
  | @up links here rest goal below ih =>
    cases names with
    | nil =>
      cases whole
      exact ⟨here, 0, links, Nat.zero_add _, .arrived, stands, .up below⟩
    | cons first names =>
      cases whole
      obtain ⟨directory, used, left, all, front, reached, last⟩ := ih (grounded.dropLast stands) rfl
      exact ⟨directory, used, left, all, .up front, reached, last⟩
  | @free links here name down fits none =>
    cases names with
    | nil =>
      cases whole
      exact ⟨here, 0, links, Nat.zero_add _, .arrived, stands, .free down fits none⟩
    | cons first names => simp at whole
  | @down links here first rest goal down fits passed below ih =>
    cases names with
    | nil =>
      cases whole
      exact ⟨here, 0, links, Nat.zero_add _, .arrived, stands, .down down fits passed below⟩
    | cons other names =>
      cases whole
      obtain ⟨directory, used, left, all, front, reached, last⟩ := ih passed rfl
      exact ⟨directory, used, left, all, .down down fits passed front, reached, last⟩
  | @file links here first content down fits ends =>
    cases names with
    | nil =>
      cases whole
      exact ⟨here, 0, links, Nat.zero_add _, .arrived, stands, .file down fits ends⟩
    | cons first names => simp at whole
  | @link links here first target down fits ends kept =>
    cases names with
    | nil =>
      cases whole
      exact ⟨here, 0, links, Nat.zero_add _, .arrived, stands, .link down fits ends kept⟩
    | cons first names => simp at whole
  | @through links here first rest goal target down fits passed last only below ih =>
    cases names with
    | nil =>
      cases whole
      exact ⟨here, 0, links + 1, Nat.zero_add _, .arrived, stands,
        .through down fits passed last only below⟩
    | cons other names =>
      cases whole
      obtain ⟨directory, used, left, all, front, reached, onwards⟩ :=
        ih (get?_origin stands) (List.append_assoc _ _ _)
      refine ⟨directory, used + 1, left, by omega,
        .through down fits passed (fun _ => rfl) (fun _ _ => ?_) front, reached, onwards⟩
      simp [onlyDirectory, reached]

theorem Leads.front (grounded : Grounded tree) (stands : tree.get? here = some .directory)
    (leads : Leads tree followLast links here (names ++ [name]) goal) :
    ∃ directory, Leads tree true links here names (.found directory) ∧
      tree.get? directory = some .directory ∧
      ∃ left, Leads tree followLast left directory [name] goal := by
  obtain ⟨directory, used, left, rfl, front, reached, last⟩ := leads.cut grounded stands
  exact ⟨directory, front.more_links (Nat.le_add_right _ _), reached, left, last⟩

variable {path parent : Path}

theorem hasNul_child (parent : Path) (name : Name) :
    hasNul (parent.child name) = (hasNul parent || name.text.toList.contains '\x00') := by
  simp [hasNul]

theorem directoryAt?_of_locate_child (grounded : Grounded tree)
    (stands : tree.get? start = some .directory)
    (located : tree.locate start followLast (parent.child name) = .ok goal) :
    ∃ directory, tree.directoryAt? start parent = some directory ∧
      ∃ left, Leads tree followLast left directory [name] goal := by
  obtain ⟨clean, short, leads⟩ := locate_eq_ok_iff.1 located
  rw [hasNul_child, Bool.or_eq_false_iff] at clean
  obtain ⟨directory, front, reached, last⟩ := leads.front grounded (get?_origin stands)
  have shorter := Nat.le_trans (Path.utf8ByteSize_toString_le_child parent name) short
  exact ⟨directory, directoryAt?_eq_some_iff.2
    ⟨locate_eq_ok_iff.2 ⟨clean.1, shorter, front⟩, reached⟩, last⟩

theorem Grounded.changed (grounded : Grounded tree)
    (directories : ∀ {place}, tree.get? place = some .directory →
      other.get? place = some .directory)
    (unlistable : other.unlistable = tree.unlistable)
    (inside : ∀ {place last entry}, other.get? (place ++ [last]) = some entry →
      tree.get? (place ++ [last]) = some entry ∨ tree.get? place = some .directory) :
    Grounded other := by
  constructor
  · intro place last entry stands
    rcases inside stands with before | home
    · exact directories (grounded.inside before)
    · exact directories home
  · intro location member
    rw [unlistable] at member
    exact directories (grounded.unlistable location member)

theorem get?_place_of_directory (noDirectory : tree.get? location ≠ some .directory) (entry : Entry)
    (stands : tree.get? here = some .directory) :
    (tree.place location entry).get? here = some .directory := by
  rw [get?_place_of_ne, stands]
  rintro rfl
  exact noDirectory stands

theorem Grounded.place (grounded : Grounded tree) (stands : tree.get? directory = some .directory)
    (noDirectory : tree.get? (directory ++ [name]) ≠ some .directory) (entry : Entry) :
    Grounded (tree.place (directory ++ [name]) entry) := by
  refine grounded.changed (get?_place_of_directory noDirectory entry) rfl
    fun {place last found} now => ?_
  by_cases same : directory ++ [name] = place ++ [last]
  · obtain ⟨rfl, _⟩ := List.append_inj' same rfl
    exact .inr stands
  · rw [get?_place_of_ne _ _ same] at now
    exact .inl now

theorem get?_erase_of_directory (noDirectory : tree.get? location ≠ some .directory)
    (stands : tree.get? here = some .directory) :
    (tree.erase location).get? here = some .directory := by
  rw [get?_erase_of_ne, stands]
  rintro rfl
  exact noDirectory stands

theorem get?_of_erase (below : location ≠ []) (stands : (tree.erase location).get? here = some entry) :
    tree.get? here = some entry := by
  by_cases same : location = here
  · rw [← same, get?_erase_self _ _ below] at stands
    cases stands
  · rwa [get?_erase_of_ne _ same] at stands

theorem Grounded.erase (grounded : Grounded tree)
    (noDirectory : tree.get? location ≠ some .directory) : Grounded (tree.erase location) := by
  have below : location ≠ [] := by
    rintro rfl
    exact noDirectory (get?_root tree)
  exact grounded.changed (get?_erase_of_directory noDirectory) rfl
    fun stands => .inl (get?_of_erase below stands)

theorem Grounded.makeDirectory (grounded : Grounded tree)
    (stands : tree.get? start = some .directory)
    (made : tree.makeDirectory start path = .ok other) : Grounded other := by
  unfold FileTree.makeDirectory at made
  split at made
  · cases made
  · cases made
  · rename_i directory name located
    cases made
    refine grounded.place ?_ (by simp [get?_of_locate_free located]) .directory
    exact (locate_eq_ok_iff.1 located).2.2.directory_of_free grounded (get?_origin stands)

theorem Grounded.makeDirectoriesUp {anchor : Anchor} (grounded : Grounded tree)
    (stands : tree.get? start = some .directory) :
    Grounded (tree.makeDirectoriesUp start anchor names).tree := by
  have whole := makeDirectoriesUp_preserves
    (P := fun other => Grounded other ∧ other.get? start = some .directory)
    (fun both made => ⟨both.1.makeDirectory both.2 made,
      (makeDirectory_eq_ok made).1.get?_of_some both.2⟩) anchor names ⟨grounded, stands⟩
  exact whole.1

theorem directoryAt?_of_missing (missing : tree.makeDirectory start path = .error .notFound) :
    tree.directoryAt? start path = none := by
  cases reached : tree.directoryAt? start path with
  | none => rfl
  | some directory =>
    rw [(makeDirectory_of_reached reached).1] at missing
    cases missing

theorem directoryAt?_of_refused {cause worse : FileError}
    (refused : tree.makeDirectory start path = .error cause)
    (reported : tree.toleratedBy start path cause = .error worse) :
    tree.directoryAt? start path = none := by
  cases reached : tree.directoryAt? start path with
  | none => rfl
  | some directory =>
    obtain ⟨present, tolerated⟩ := makeDirectory_of_reached reached
    rw [refused] at present
    cases present
    rw [tolerated] at reported
    cases reported

theorem directoryAt?_makeDirectoriesUp_of_error {anchor : Anchor} {error : FileError}
    (grounded : Grounded tree) (stands : tree.get? start = some .directory)
    (failed : (tree.makeDirectoriesUp start anchor names).outcome = .error error) :
    (tree.makeDirectoriesUp start anchor names).tree.directoryAt? start
      ⟨anchor, names.reverse⟩ = none := by
  induction names generalizing error with
  | nil =>
    rw [FileTree.makeDirectoriesUp] at failed ⊢
    split at failed
    · cases failed
    · rename_i cause refused
      exact directoryAt?_of_refused refused failed
  | cons name above ih =>
    rw [FileTree.makeDirectoriesUp] at failed ⊢
    split at failed
    · cases failed
    · rename_i missing
      simp only at failed ⊢
      split at failed
      · rename_i worse upper
        -- A way to the directory would lead to the one above it first, and that is not there.
        have nowhere := ih upper
        cases reached : (tree.makeDirectoriesUp start anchor above).tree.directoryAt? start
            ⟨anchor, (name :: above).reverse⟩ with
        | none => rfl
        | some directory =>
          have whole : (⟨anchor, (name :: above).reverse⟩ : Path) =
              Path.child ⟨anchor, above.reverse⟩ name := by simp [Path.child]
          rw [whole] at reached
          obtain ⟨front, led, _⟩ := directoryAt?_of_locate_child (grounded.makeDirectoriesUp stands)
            ((addsDirectories_makeDirectoriesUp anchor above).get?_of_some stands)
            (directoryAt?_eq_some_iff.1 reached).1
          rw [nowhere] at led
          cases led
      · rename_i upper
        split at failed
        · cases failed
        · rename_i again
          exact directoryAt?_of_missing again
        · rename_i cause other refused
          exact directoryAt?_of_refused refused failed
    · rename_i cause other refused
      exact directoryAt?_of_refused refused failed

/-- Making directories ends badly only where the path leads to no directory in the end. -/
theorem directoryAt?_makeDirectories_of_error {error : FileError} (grounded : Grounded tree)
    (stands : tree.get? start = some .directory)
    (failed : (tree.makeDirectories start path).outcome = .error error) :
    (tree.makeDirectories start path).tree.directoryAt? start path = none := by
  have nowhere := directoryAt?_makeDirectoriesUp_of_error grounded stands failed
  rw [List.reverse_reverse] at nowhere
  exact nowhere

theorem Grounded.makeDirectories (grounded : Grounded tree)
    (stands : tree.get? start = some .directory) (path : Path) :
    Grounded (tree.makeDirectories start path).tree :=
  grounded.makeDirectoriesUp stands

end PageRoutes.FileTree
