import PageRoutes.Proofs.Discovery

/-! What discovery looks at.

Of an entry discovery sees whether it is a link, whether it is a directory behind links, and
whether it may be listed. Main statement: where two trees look alike from the path of the pages,
discovery finds the same in both. In which order entries are listed, what is in a file, and what
stands outside of the pages directory are out of its sight.
-/

set_option autoImplicit false

namespace PageRoutes

def Entry.isLink : Entry → Bool
  | .link _ => true
  | _ => false

namespace Discovery

open FileTree

structure Sight where
  isLink : Bool
  /-- Links are followed. -/
  isDirectory : Bool
  /-- It is a directory itself, and may not be listed. -/
  isClosed : Bool
  deriving DecidableEq

def sight? (tree : FileTree) (location : Location) : Option Sight :=
  (tree.get? location).map fun entry =>
    ⟨entry.isLink, leadsToDirectory tree location,
      entry.isDirectory && tree.unlistable.contains location⟩

/-- The same is to be seen at and below two directories. -/
def SameSights (tree other : FileTree) (base otherBase : Location) : Prop :=
  ∀ way, sight? tree (base ++ way) = sight? other (otherBase ++ way)

/-- From a path two trees look alike: it leads to a directory in both or in none, and the same is
to be seen at and below that directory. -/
structure Alike (tree other : FileTree) (start : Location) (path : Path) : Prop where
  root : (tree.directoryAt? start path).isSome = (other.directoryAt? start path).isSome
  sights : ∀ base otherBase, tree.directoryAt? start path = some base →
    other.directoryAt? start path = some otherBase → SameSights tree other base otherBase

variable {tree other : FileTree} {start base otherBase location : Location} {path : Path}
  {way : Location} {sources : List Path}

theorem SameSights.symm (same : SameSights tree other base otherBase) :
    SameSights other tree otherBase base := fun way => (same way).symm

theorem Alike.symm (alike : Alike tree other start path) : Alike other tree start path :=
  ⟨alike.root.symm, fun base otherBase here there => (alike.sights otherBase base there here).symm⟩

theorem isSome_sight? : (sight? tree location).isSome = (tree.get? location).isSome := by
  rw [sight?, Option.isSome_map]

theorem leadsToDirectory_eq_sight? :
    leadsToDirectory tree location = (sight? tree location).any Sight.isDirectory := by
  unfold sight?
  cases stands : tree.get? location with
  | none => simp [leadsToDirectory, stands]
  | some entry => rfl

theorem isDirectory_eq_sight? : ((tree.get? location).map Entry.isDirectory).getD false =
    (sight? tree location).any fun sight => sight.isDirectory && !sight.isLink := by
  unfold sight?
  cases stands : tree.get? location with
  | none => rfl
  | some entry => cases entry <;> simp [Entry.isDirectory, Entry.isLink, leadsToDirectory, stands]

theorem mem_unlistable_iff_sight? (directory : tree.get? location = some .directory) :
    location ∈ tree.unlistable ↔ (sight? tree location).any Sight.isClosed = true := by
  simp [sight?, directory, Entry.isDirectory]

theorem visits_congr (same : SameSights tree other base otherBase) :
    visits tree base way = visits other otherBase way := by
  induction way generalizing base otherBase with
  | nil => rfl
  | cons name rest ih =>
    have onwards : SameSights tree other (base ++ [name]) (otherBase ++ [name]) := by
      intro way
      rw [List.append_assoc, List.append_assoc]
      exact same _
    rw [visits, visits, isDirectory_eq_sight?, isDirectory_eq_sight?, same, ih onwards]

theorem mem_ways_congr (same : SameSights tree other base otherBase) :
    way ∈ ways tree base ↔ way ∈ ways other otherBase := by
  simp only [mem_ways_iff, visits_congr same, ← isSome_sight?, leadsToDirectory_eq_sight?,
    same way]

theorem blocked?_congr (same : SameSights tree other base otherBase)
    (directory : tree.get? base = some .directory)
    (otherDirectory : other.get? otherBase = some .directory)
    (listed : blocked? tree base = none) : blocked? other otherBase = none := by
  rw [blocked?_eq_none_iff] at listed ⊢
  intro way visited
  have above : visits tree base way = true := (visits_congr same).trans visited
  -- Only a directory can be closed to the walk, and it is one in both trees.
  have here : tree.get? (base ++ way) = some .directory ∧
      other.get? (otherBase ++ way) = some .directory := by
    by_cases top : way = []
    · rw [top, List.append_nil, List.append_nil]
      exact ⟨directory, otherDirectory⟩
    · exact ⟨directory_of_visits above top, directory_of_visits visited top⟩
  rw [mem_unlistable_iff_sight? here.2, ← same, ← mem_unlistable_iff_sight? here.1]
  exact listed way above

theorem pages_of_alike (alike : Alike tree other start path)
    (discovered : pages tree start path = .ok sources) : pages other start path = .ok sources := by
  refine pages_congr discovered fun base here => ?_
  have reached : (other.directoryAt? start path).isSome := by
    rw [← alike.root, here]
    rfl
  obtain ⟨otherBase, there⟩ := Option.isSome_iff_exists.1 reached
  have same := alike.sights base otherBase here there
  exact ⟨otherBase, there,
    blocked?_congr same (directoryAt?_eq_some_iff.1 here).2 (directoryAt?_eq_some_iff.1 there).2,
    fun way => (mem_ways_congr same).symm⟩

theorem pages_eq_ok_iff_of_alike (alike : Alike tree other start path) :
    pages tree start path = .ok sources ↔ pages other start path = .ok sources :=
  ⟨pages_of_alike alike, pages_of_alike alike.symm⟩

/-- Whether two trees look alike is told by the entries below the two directories. -/
theorem sameSights_iff : SameSights tree other base otherBase ↔
    ∀ way ∈ [] :: ((tree.below base).map Prod.fst ++ (other.below otherBase).map Prod.fst),
      sight? tree (base ++ way) = sight? other (otherBase ++ way) := by
  refine ⟨fun same way _ => same way, fun same way => ?_⟩
  by_cases listed : way ∈ [] :: ((tree.below base).map Prod.fst ++
      (other.below otherBase).map Prod.fst)
  · exact same way listed
  · simp only [List.mem_cons, List.mem_append, mem_below_iff, not_or, not_and,
      Option.not_isSome_iff_eq_none] at listed
    rw [sight?, sight?, listed.2.1 listed.1, listed.2.2 listed.1]
    rfl

instance (tree other : FileTree) (base otherBase : Location) :
    Decidable (SameSights tree other base otherBase) := decidable_of_iff _ sameSights_iff.symm

end Discovery

end PageRoutes
