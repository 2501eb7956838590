import PageRoutes.Proofs.FileTree.Reaching

/-! Making a directory and those above it.

Directories are only added, each where nothing stood, so no way is lost. When the making
succeeds the path leads to a directory, and where it did before nothing happens at all.
-/

set_option autoImplicit false

namespace PageRoutes.FileTree

/-- The other tree has more directories, each at a location where nothing stood. -/
def AddsDirectories (tree other : FileTree) : Prop :=
  ∀ location, other.get? location = tree.get? location ∨
    tree.get? location = none ∧ other.get? location = some .directory

variable {tree other last : FileTree} {start directory : Location} {path : Path}

theorem AddsDirectories.refl (tree : FileTree) : AddsDirectories tree tree :=
  fun _ => .inl rfl

theorem AddsDirectories.trans (first : AddsDirectories tree other)
    (second : AddsDirectories other last) : AddsDirectories tree last := by
  intro location
  rcases second location with same | ⟨none, made⟩
  · rw [same]
    exact first location
  · rcases first location with same | ⟨_, already⟩
    · exact .inr ⟨same ▸ none, made⟩
    · rw [already] at none
      cases none

theorem AddsDirectories.get?_of_some (adds : AddsDirectories tree other) {location : Location}
    {entry : Entry} (stands : tree.get? location = some entry) :
    other.get? location = some entry := by
  rcases adds location with same | ⟨none, _⟩
  · rw [same, stands]
  · rw [none] at stands
    cases stands

theorem AddsDirectories.link_of_link (adds : AddsDirectories tree other) {location : Location}
    {target : LinkTarget} (linked : other.get? location = some (.link target)) :
    tree.get? location = some (.link target) := by
  rcases adds location with same | ⟨_, directory⟩
  · rw [← same, linked]
  · rw [directory] at linked
    cases linked

theorem AddsDirectories.keepsWays (adds : AddsDirectories tree other) : KeepsWays tree other :=
  ⟨adds.get?_of_some, adds.get?_of_some⟩

theorem makeDirectory_eq_ok (made : tree.makeDirectory start path = .ok other) :
    AddsDirectories tree other ∧ ∃ directory, other.directoryAt? start path = some directory := by
  unfold makeDirectory at made
  split at made
  · cases made
  · cases made
  · rename_i directory name located
    cases made
    have below : directory ++ [name] ≠ [] := by simp
    have stands := get?_place_self tree (directory ++ [name]) .directory below
    have adds : AddsDirectories tree (tree.place (directory ++ [name]) .directory) := by
      intro location
      by_cases here : directory ++ [name] = location
      · exact .inr ⟨here ▸ get?_of_locate_free located, here ▸ stands⟩
      · exact .inl (get?_place_of_ne tree _ here)
    exact ⟨adds, _, directoryAt?_of_made adds.keepsWays stands located⟩

theorem isDirectory_eq_ok_true_iff :
    tree.isDirectory start path = .ok true ↔
      ∃ directory, tree.directoryAt? start path = some directory := by
  unfold isDirectory probe directoryAt?
  cases located : tree.locate start true path with
  | error error =>
    cases error <;> simp [Except.map]
  | ok goal =>
    cases goal with
    | free directory name => simp [Except.map]
    | found location =>
      cases stands : tree.get? location with
      | none => simp [stands, Except.map]
      | some entry => cases entry <;> simp [stands, Except.map]

theorem directoryAt?_of_toleratedBy {error : FileError}
    (tolerated : tree.toleratedBy start path error = .ok ()) :
    ∃ directory, tree.directoryAt? start path = some directory := by
  unfold toleratedBy at tolerated
  split at tolerated
  · split at tolerated
    · rename_i leads
      exact isDirectory_eq_ok_true_iff.1 leads
    · cases tolerated
    · cases tolerated
  · cases tolerated

theorem makeDirectory_of_reached (reaches : tree.directoryAt? start path = some directory) :
    tree.makeDirectory start path = .error .alreadyExists ∧
      tree.toleratedBy start path .alreadyExists = .ok () := by
  obtain ⟨location, located⟩ := locate_unfollowed (directoryAt?_eq_some_iff.1 reaches).1
  have leads := isDirectory_eq_ok_true_iff.2 ⟨directory, reaches⟩
  have refusal : FileError.alreadyExists.isRefusal = true := rfl
  exact ⟨by rw [makeDirectory, located], by rw [toleratedBy, if_pos refusal, leads]⟩

theorem makeDirectories_of_reached (reaches : tree.directoryAt? start path = some directory) :
    tree.makeDirectories start path = ⟨.ok (), tree, []⟩ := by
  obtain ⟨anchor, names⟩ := path
  obtain ⟨present, tolerated⟩ := makeDirectory_of_reached reaches
  rw [makeDirectories]
  cases turned : names.reverse with
  | nil =>
    rw [List.reverse_eq_nil_iff] at turned
    subst turned
    rw [makeDirectoriesUp, present]
    simp only [tolerated]
  | cons name above =>
    have back : (name :: above).reverse = names := by rw [← turned, List.reverse_reverse]
    rw [makeDirectoriesUp, back, present]
    simp only [tolerated]

/-- What every single making of a directory preserves, making a directory and those above it
preserves. -/
theorem makeDirectoriesUp_preserves {P : FileTree → Prop}
    (step : ∀ {tree other : FileTree} {path : Path}, P tree →
      tree.makeDirectory start path = .ok other → P other)
    (anchor : Anchor) (names : List Name) (holds : P tree) :
    P (tree.makeDirectoriesUp start anchor names).tree := by
  induction names with
  | nil =>
    rw [makeDirectoriesUp]
    split
    · rename_i made
      exact step holds made
    · exact holds
  | cons name above ih =>
    rw [makeDirectoriesUp]
    split
    · rename_i made
      exact step holds made
    · simp only
      split
      · exact ih
      · split
        · rename_i made
          exact step ih made
        · exact ih
        · exact ih
    · exact holds

theorem addsDirectories_makeDirectoriesUp (anchor : Anchor) (names : List Name) :
    AddsDirectories tree (tree.makeDirectoriesUp start anchor names).tree :=
  makeDirectoriesUp_preserves (fun adds made => adds.trans (makeDirectory_eq_ok made).1)
    anchor names (.refl tree)

theorem addsDirectories_makeDirectories (tree : FileTree) (start : Location) (path : Path) :
    AddsDirectories tree (tree.makeDirectories start path).tree :=
  addsDirectories_makeDirectoriesUp _ _

theorem unlistable_makeDirectories (tree : FileTree) (start : Location) (path : Path) :
    (tree.makeDirectories start path).tree.unlistable = tree.unlistable := by
  refine makeDirectoriesUp_preserves
    (P := fun other => other.unlistable = tree.unlistable)
    (fun {other last path} same made => ?_) _ _ rfl
  unfold makeDirectory at made
  split at made
  · cases made
  · cases made
  · cases made
    exact same

theorem directoryAt?_makeDirectoriesUp {anchor : Anchor} {names : List Name}
    (made : (tree.makeDirectoriesUp start anchor names).outcome = .ok ()) :
    ∃ directory, (tree.makeDirectoriesUp start anchor names).tree.directoryAt? start
      ⟨anchor, names.reverse⟩ = some directory := by
  cases names with
  | nil =>
    rw [makeDirectoriesUp] at made ⊢
    split at made
    · rename_i first
      exact (makeDirectory_eq_ok first).2
    · exact directoryAt?_of_toleratedBy made
  | cons name above =>
    rw [makeDirectoriesUp] at made ⊢
    split at made
    · rename_i first
      exact (makeDirectory_eq_ok first).2
    · rename_i first
      simp only at made ⊢
      split at made
      · cases made
      · split at made
        · rename_i second
          exact (makeDirectory_eq_ok second).2
        · cases made
        · exact directoryAt?_of_toleratedBy made
    · exact directoryAt?_of_toleratedBy made

theorem directoryAt?_makeDirectories
    (made : (tree.makeDirectories start path).outcome = .ok ()) :
    ∃ directory,
      (tree.makeDirectories start path).tree.directoryAt? start path = some directory := by
  have reaches := directoryAt?_makeDirectoriesUp made
  rw [List.reverse_reverse] at reaches
  exact reaches

end PageRoutes.FileTree
