import Mathlib.Data.List.Sort
import PageRoutes.Discovery
import PageRoutes.Proofs.FileTree.Grounded
import PageRoutes.Proofs.FileTree.Refusals

/-! What discovery finds.

The ways to page files are told by what stands where: each comes once, and the order is settled by
their written form, so the same pages give the same list. In a grounded tree a way to a file passes
through directories anyway, and only the names on it matter.
-/

set_option autoImplicit false

namespace PageRoutes.Discovery

open FileTree

/-- No directory on a way is skipped for its name. -/
def IsOpen (way : Location) : Prop := ∀ name ∈ way, name.text ∉ skippedDirectories

instance (way : Location) : Decidable (IsOpen way) :=
  inferInstanceAs (Decidable (∀ name ∈ way, name.text ∉ skippedDirectories))

variable {tree other : FileTree} {start base : Location} {path : Path} {way front : Location}
  {name : Name} {entry : Entry} {sources : List Path}

theorem mem_ways_iff : way ∈ ways tree base ↔ ∃ front name, way = front ++ [name] ∧
    visits tree base front = true ∧ Route.isPageFile name.text = true ∧
      (tree.get? (base ++ way)).isSome ∧ leadsToDirectory tree (base ++ way) = false := by
  rw [ways, pageWays, List.mem_mergeSort, List.mem_filter, files, List.mem_filter, mem_below_iff]
  constructor
  · rintro ⟨⟨⟨nonempty, stands⟩, walked⟩, ending⟩
    obtain ⟨front, name, rfl⟩ : ∃ front name, way = front ++ [name] :=
      ⟨_, _, (List.dropLast_append_getLast nonempty).symm⟩
    rw [List.dropLast_concat, Bool.and_eq_true, Bool.not_eq_true'] at walked
    rw [List.getLast?_concat, Option.map_some, Option.getD_some] at ending
    exact ⟨front, name, rfl, walked.1, ending, stands, walked.2⟩
  · rintro ⟨front, name, rfl, visited, ending, stands, file⟩
    refine ⟨⟨⟨by simp, stands⟩, ?_⟩, ?_⟩
    · rw [List.dropLast_concat, visited, file]
      rfl
    · rwa [List.getLast?_concat, Option.map_some, Option.getD_some]

theorem pairwise_ways (tree : FileTree) (base : Location) :
    (ways tree base).Pairwise fun first second => before first second = true := by
  refine List.pairwise_mergeSort ?_ ?_ _
  · intro first second third
    simp only [before, decide_eq_true_eq]
    exact String.le_trans
  · intro first second
    simp only [before, Bool.or_eq_true, decide_eq_true_eq]
    exact String.le_total _ _

theorem nodup_ways (tree : FileTree) (base : Location) : (ways tree base).Nodup :=
  (List.mergeSort_perm _ _).nodup_iff.2 (((nodup_below tree base).filter _).filter _)

theorem pairwise_ways_lt (tree : FileTree) (base : Location) :
    (ways tree base).Pairwise fun first second =>
      Path.joinNames first < Path.joinNames second := by
  refine ((pairwise_ways tree base).and (nodup_ways tree base)).imp fun ⟨ordered, differ⟩ => ?_
  rw [before, decide_eq_true_eq] at ordered
  by_contra notBefore
  exact differ (Path.joinNames_injective (String.le_antisymm ordered (String.not_lt.1 notBefore)))

/-- A list of ways in the order of their written forms is settled by which ways are in it. -/
theorem eq_of_mem_iff {found expected : List Location}
    (foundOrder : found.Pairwise fun first second => Path.joinNames first < Path.joinNames second)
    (expectedOrder : expected.Pairwise fun first second =>
      Path.joinNames first < Path.joinNames second)
    (same : ∀ way, way ∈ found ↔ way ∈ expected) : found = expected := by
  let written (first second : Location) : Prop := Path.joinNames first < Path.joinNames second
  have irreflexive : Std.Irrefl written := ⟨fun way => String.lt_irrefl (Path.joinNames way)⟩
  have antisymmetric : Std.Antisymm written :=
    ⟨fun first second less greater => absurd greater (String.lt_asymm less)⟩
  exact List.Pairwise.eq_of_mem_iff (r := written) foundOrder expectedOrder same

theorem ways_congr {base otherBase : Location}
    (same : ∀ way, way ∈ ways tree base ↔ way ∈ ways other otherBase) :
    ways tree base = ways other otherBase :=
  eq_of_mem_iff (pairwise_ways_lt tree base) (pairwise_ways_lt other otherBase) same

theorem directory_of_isDirectory
    (directory : ((tree.get? base).map Entry.isDirectory).getD false = true) :
    tree.get? base = some .directory := by
  cases stands : tree.get? base with
  | none => simp [stands] at directory
  | some entry => cases entry <;> simp_all [Entry.isDirectory]

theorem directory_of_visits (visited : visits tree base way = true) (below : way ≠ []) :
    tree.get? (base ++ way) = some .directory := by
  induction way generalizing base with
  | nil => exact absurd rfl below
  | cons name rest ih =>
    simp only [visits, Bool.and_eq_true] at visited
    obtain ⟨⟨_, directory⟩, onwards⟩ := visited
    cases rest with
    | nil => exact directory_of_isDirectory directory
    | cons next rest =>
      have reached := ih onwards (List.cons_ne_nil _ _)
      rwa [List.append_assoc] at reached

theorem isOpen_of_visits (visited : visits tree base way = true) : IsOpen way := by
  induction way generalizing base with
  | nil => exact nofun
  | cons name rest ih =>
    simp only [visits, Bool.and_eq_true, Bool.not_eq_true', List.contains_eq_mem,
      decide_eq_false_iff_not] at visited
    exact List.forall_mem_cons.2 ⟨visited.1.1, ih visited.2⟩

theorem visits_of_isOpen (grounded : Grounded tree) (opened : IsOpen way)
    (stands : tree.get? (base ++ way) = some .directory) : visits tree base way = true := by
  induction way generalizing base with
  | nil => rfl
  | cons name rest ih =>
    rw [List.append_cons] at stands
    obtain ⟨kept, onwards⟩ := List.forall_mem_cons.1 opened
    have here : tree.get? (base ++ [name]) = some .directory := by
      cases rest with
      | nil => rwa [List.append_nil] at stands
      | cons next rest => exact grounded.above (List.cons_ne_nil _ _) stands
    simp only [visits, Bool.and_eq_true, Bool.not_eq_true', List.contains_eq_mem,
      decide_eq_false_iff_not]
    exact ⟨⟨kept, by rw [here]; rfl⟩, ih onwards stands⟩

theorem leadsToDirectory_iff {location : Location} : leadsToDirectory tree location = true ↔
    tree.get? location = some .directory ∨
      (∃ target, tree.get? location = some (.link target)) ∧
        ∃ directory, tree.directoryAt? [] (Path.ofLocation location) = some directory := by
  rw [← isDirectory_eq_ok_true_iff]
  unfold leadsToDirectory
  split
  · simp [*]
  · simp [*]
  · rename_i noDirectory noLink
    simp only [Bool.false_eq_true, false_iff, not_or, not_and]
    exact ⟨noDirectory, fun ⟨target, stands⟩ leads => noLink target stands leads⟩

/-- The pages of a grounded tree: what stands under the name of a page file, leads to no
directory, and has no skipped directory on its way. -/
theorem mem_ways_iff_of_grounded (grounded : Grounded tree) :
    way ∈ ways tree base ↔ ∃ front name, way = front ++ [name] ∧ IsOpen front ∧
      Route.isPageFile name.text = true ∧ (tree.get? (base ++ way)).isSome ∧
        leadsToDirectory tree (base ++ way) = false := by
  rw [mem_ways_iff]
  constructor
  · rintro ⟨front, name, rfl, visited, ending, stands, file⟩
    exact ⟨front, name, rfl, isOpen_of_visits visited, ending, stands, file⟩
  · rintro ⟨front, name, rfl, opened, ending, stands, file⟩
    have visited : visits tree base front = true := by
      obtain ⟨entry, found⟩ := Option.isSome_iff_exists.1 stands
      rw [← List.append_assoc] at found
      exact visits_of_isOpen grounded opened (grounded.inside found)
    exact ⟨front, name, rfl, visited, ending, stands, file⟩

theorem blocked?_eq_none_iff : blocked? tree base = none ↔
    ∀ way, visits tree base way = true → base ++ way ∉ tree.unlistable := by
  simp only [blocked?, List.find?_eq_none, List.mem_cons, mem_below_iff, Bool.and_eq_true,
    List.contains_eq_mem, decide_eq_true_eq, not_and]
  constructor
  · intro listed way visited
    by_cases here : way = []
    · exact listed way (.inl here) visited
    · refine listed way (.inr ⟨here, ?_⟩) visited
      rw [directory_of_visits visited here]
      rfl
  · exact fun listed way _ => listed way

theorem probe_eq_directory_iff : tree.probe start path = .ok (some (base, .directory)) ↔
    tree.directoryAt? start path = some base := by
  rw [directoryAt?_eq_some_iff]
  unfold probe
  cases located : tree.locate start true path with
  | error error => cases error <;> simp
  | ok goal =>
    cases goal with
    | free directory name => simp
    | found location =>
      simp only [Except.ok.injEq, Option.map_eq_some_iff, Prod.mk.injEq, Target.found.injEq]
      constructor
      · rintro ⟨entry, stands, rfl, rfl⟩
        exact ⟨rfl, stands⟩
      · rintro ⟨rfl, stands⟩
        exact ⟨_, stands, rfl, rfl⟩

/-- Discovery succeeds where the path leads to a directory and the walk comes to no directory
that may not be listed. -/
theorem pages_eq_ok_iff : pages tree start path = .ok sources ↔
    ∃ base, tree.directoryAt? start path = some base ∧ blocked? tree base = none ∧
      sources = (ways tree base).map fun way =>
        (Path.ofLocation start).join (path.join ⟨.relative, way⟩) := by
  simp only [← probe_eq_directory_iff]
  rw [pages_eq]
  split
  · rename_i refused
    simp [refused]
  · rename_i base reached
    simp only [reached, Except.ok.injEq, Option.some.injEq, Prod.mk.injEq, and_true]
    split
    · rename_i blocked
      simp [blocked]
    · rename_i listed
      simp only [Except.ok.injEq, exists_eq_left', listed, true_and]
      exact eq_comm
  · rename_i found missed probed
    simp only [reduceCtorEq, probed, Except.ok.injEq, false_iff, not_exists, not_and]
    rintro base rfl
    exact absurd rfl (missed base)

theorem pages_eq_refused_iff {error : FileError} :
    pages tree start path = .error (.refused error) ↔
      error = .nameTooLong ∧ tree.locate start true path = .error .nameTooLong := by
  rw [← probe_eq_error_iff, pages_eq]
  split
  · rename_i refused
    simp [refused]
  · rename_i base probed
    rw [probed]
    split <;> simp
  · rename_i found missed probed
    simp [probed]

theorem not_tooLong_of_pages (discovered : pages tree start path = .ok sources) :
    tree.locate start true path ≠ .error .nameTooLong := by
  intro long
  rw [pages_eq_refused_iff.2 ⟨rfl, long⟩] at discovered
  cases discovered

theorem tooLong_iff_of_pages {failure : DiscoveryFailure}
    (failed : pages tree start path = .error failure) :
    tree.locate start true path = .error .nameTooLong ↔
      ∀ error, failure ≠ .reported error := by
  cases failure with
  | reported error =>
    refine iff_of_false (fun long => ?_) fun other => other error rfl
    rw [pages_eq_refused_iff.2 ⟨rfl, long⟩] at failed
    cases failed
  | refused error => exact ⟨fun _ => nofun, fun _ => (pages_eq_refused_iff.1 failed).2⟩

theorem pages_congr (discovered : pages tree start path = .ok sources)
    (reached : ∀ base, tree.directoryAt? start path = some base →
      ∃ otherBase, other.directoryAt? start path = some otherBase ∧
        (blocked? tree base = none → blocked? other otherBase = none) ∧
        ∀ way, way ∈ ways other otherBase ↔ way ∈ ways tree base) :
    pages other start path = .ok sources := by
  obtain ⟨base, here, listed, rfl⟩ := pages_eq_ok_iff.1 discovered
  obtain ⟨otherBase, there, still, same⟩ := reached base here
  exact pages_eq_ok_iff.2 ⟨otherBase, there, still listed, by rw [ways_congr same]⟩

end PageRoutes.Discovery
