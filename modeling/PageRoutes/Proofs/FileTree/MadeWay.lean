import PageRoutes.Proofs.FileTree.Grounded

/-! What is made on the way of a path.

Every tree that the making of directories passes through keeps all that stood before. What it has
more are directories to which the first names of the path lead. In a grounded tree they are empty,
but for such directories again.
-/

set_option autoImplicit false

namespace PageRoutes.FileTree

def OnTheWay (tree : FileTree) (start : Location) (path : Path) (location : Location) : Prop :=
  ∃ names, names <+: path.names ∧
    tree.directoryAt? start ⟨path.anchor, names⟩ = some location

/-- The other tree has all that stood before, and directories on the way of the path. -/
structure MakesWay (start : Location) (path : Path) (tree other : FileTree) : Prop where
  kept : ∀ {location entry}, tree.get? location = some entry →
    other.get? location = some entry
  added : ∀ {location entry}, tree.get? location = none → other.get? location = some entry →
    entry = .directory ∧ other.OnTheWay start path location

variable {tree other last : FileTree} {start directory location : Location} {path upper : Path}
  {names rest : List Name} {entry : Entry}

theorem OnTheWay.keepsWays (keeps : KeepsWays tree other)
    (passed : tree.OnTheWay start path location) : other.OnTheWay start path location := by
  obtain ⟨names, first, reached⟩ := passed
  exact ⟨names, first, directoryAt?_keepsWays keeps reached⟩

theorem MakesWay.refl (start : Location) (path : Path) (tree : FileTree) :
    MakesWay start path tree tree := by
  refine ⟨id, fun none stands => ?_⟩
  rw [none] at stands
  cases stands

theorem MakesWay.addsDirectories (way : MakesWay start path tree other) :
    AddsDirectories tree other := by
  intro location
  cases before : tree.get? location with
  | some entry => exact .inl (way.kept before)
  | none =>
    cases now : other.get? location with
    | none => exact .inl rfl
    | some entry => exact .inr ⟨rfl, by rw [(way.added before now).1]⟩

theorem MakesWay.keepsWays (way : MakesWay start path tree other) : KeepsWays tree other :=
  way.addsDirectories.keepsWays

theorem MakesWay.trans (above : MakesWay start upper tree other)
    (below : MakesWay start path other last) (anchor : upper.anchor = path.anchor)
    (first : upper.names <+: path.names) : MakesWay start path tree last := by
  refine ⟨fun stands => below.kept (above.kept stands), fun {location entry} none stands => ?_⟩
  cases between : other.get? location with
  | none => exact below.added between stands
  | some entry =>
    cases (below.kept between).symm.trans stands
    obtain ⟨made, names, front, reached⟩ := above.added none between
    refine ⟨made, names, front.trans first, ?_⟩
    rw [← anchor]
    exact directoryAt?_keepsWays below.keepsWays reached

theorem MakesWay.of_get?_eq (way : MakesWay start path tree other)
    (same : ∀ location, last.get? location = other.get? location) :
    MakesWay start path tree last := by
  refine ⟨fun stands => (same _).trans (way.kept stands), fun none stands => ?_⟩
  obtain ⟨made, passed⟩ := way.added none ((same _).symm.trans stands)
  exact ⟨made, passed.keepsWays (keepsWays_of_get?_eq same)⟩

/-- In a grounded tree nothing but what is made stands below a location where nothing stood. -/
theorem MakesWay.directory_of_above (way : MakesWay start path tree other)
    (grounded : Grounded tree) (none : tree.get? location = none)
    (stands : other.get? (location ++ rest) = some entry) : entry = .directory := by
  cases before : tree.get? (location ++ rest) with
  | none => exact (way.added before stands).1
  | some found =>
    rcases List.eq_nil_or_concat rest with rfl | ⟨front, final, rfl⟩
    · rw [List.append_nil, none] at before
      cases before
    · rw [grounded.above (by simp) before] at none
      cases none

theorem makesWay_makeDirectory (made : tree.makeDirectory start path = .ok other) :
    MakesWay start path tree other := by
  unfold makeDirectory at made
  split at made
  · cases made
  · cases made
  · rename_i directory name located
    cases made
    have none := get?_of_locate_free located
    have stands : (tree.place (directory ++ [name]) .directory).get? (directory ++ [name]) =
        some .directory := get?_place_self _ _ _ (by simp)
    have kept : ∀ {location entry}, tree.get? location = some entry →
        (tree.place (directory ++ [name]) .directory).get? location = some entry := by
      intro location entry here
      rw [get?_place_of_ne, here]
      rintro rfl
      rw [none] at here
      cases here
    refine ⟨kept, fun {location entry} before now => ?_⟩
    by_cases here : directory ++ [name] = location
    · subst here
      refine ⟨Option.some.inj (now.symm.trans stands), path.names, List.prefix_refl _, ?_⟩
      exact directoryAt?_of_made ⟨kept, kept⟩ stands located
    · rw [get?_place_of_ne _ _ here, before] at now
      cases now

theorem makesWay_makeDirectoriesUp {anchor : Anchor}
    (passed : other = (tree.makeDirectoriesUp start anchor names).tree ∨
      other ∈ (tree.makeDirectoriesUp start anchor names).passed) :
    MakesWay start ⟨anchor, names.reverse⟩ tree other := by
  -- From the last name upwards, the order in which directories that are missing are tried.
  induction names generalizing other with
  | nil =>
    rw [makeDirectoriesUp] at passed
    split at passed
    · rename_i made
      rw [List.mem_singleton, or_self] at passed
      exact passed ▸ makesWay_makeDirectory made
    · obtain rfl | none := passed
      · exact .refl _ _ _
      · cases none
  | cons name above ih =>
    have first : above.reverse <+: (name :: above).reverse := by simp
    have upper : ∀ {other}, other = (tree.makeDirectoriesUp start anchor above).tree ∨
        other ∈ (tree.makeDirectoriesUp start anchor above).passed →
        MakesWay start ⟨anchor, (name :: above).reverse⟩ tree other :=
      fun passed => (ih passed).trans (.refl _ _ _) rfl first
    rw [makeDirectoriesUp] at passed
    split at passed
    · rename_i made
      rw [List.mem_singleton, or_self] at passed
      exact passed ▸ makesWay_makeDirectory made
    · simp only at passed
      split at passed
      · exact upper passed
      · split at passed
        · rename_i changed made
          -- The directories above were made first, and then the one that was missing below them.
          have whole : MakesWay start ⟨anchor, (name :: above).reverse⟩ tree changed :=
            (ih (.inl rfl)).trans (makesWay_makeDirectory made) rfl first
          rw [List.mem_append, List.mem_singleton] at passed
          obtain rfl | earlier | rfl := passed
          · exact whole
          · exact upper (.inr earlier)
          · exact whole
        · exact upper passed
        · exact upper passed
    · obtain rfl | none := passed
      · exact .refl _ _ _
      · cases none

/-- The trees that the making of directories passes through, and the one that it leaves. -/
theorem makesWay_makeDirectories (passed : other = (tree.makeDirectories start path).tree ∨
    other ∈ (tree.makeDirectories start path).passed) : MakesWay start path tree other := by
  have way := makesWay_makeDirectoriesUp passed
  rw [List.reverse_reverse] at way
  exact way

end PageRoutes.FileTree
