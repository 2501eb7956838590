import PageRoutes.Proofs.Discovery
import PageRoutes.Proofs.Path.Below

/-! The directories that discovery visits.

A visited directory is the pages directory, or a real directory in a visited one under a name that
is not skipped. Main statement: for an absolute path the result is the pages that stand in visited
directories, in the strict order of their relative paths. Discovery fails with a report where the
path leads to no directory or a visited directory may not be listed, and without one where the path
cannot be looked up at all.
-/

set_option autoImplicit false

namespace PageRoutes

def Name.IsPage (name : Name) : Prop :=
  ".tsx".toList <:+ name.text.toList ∨ ".jsx".toList <:+ name.text.toList

theorem Route.isPageFile_iff {name : Name} : isPageFile name.text = true ↔ name.IsPage := by
  simp only [isPageFile, pageExtensions, List.any_cons, List.any_nil, Bool.or_false,
    Bool.or_eq_true, List.isSuffixOf_iff_suffix, Name.IsPage]

namespace Discovery

open FileTree

inductive Visited (tree : FileTree) (base : Location) : Location → Prop where
  | top : Visited tree base []
  | inside {way : Location} {name : Name} :
      Visited tree base way → name.text ≠ "node_modules" → name.text ≠ "__pycache__" →
      tree.get? (base ++ (way ++ [name])) = some .directory → Visited tree base (way ++ [name])

/-- A page in a visited directory is a file, or a link that leads to no directory, be it to a file
or to nothing. -/
inductive Listed (tree : FileTree) (base : Location) : Location → Prop where
  | file {front : Location} {name : Name} {content : ByteArray} :
      Visited tree base front → name.IsPage →
      tree.get? (base ++ (front ++ [name])) = some (.file content) →
      Listed tree base (front ++ [name])
  | link {front : Location} {name : Name} {target : LinkTarget} :
      Visited tree base front → name.IsPage →
      tree.get? (base ++ (front ++ [name])) = some (.link target) →
      tree.directoryAt? [] (Path.ofLocation (base ++ (front ++ [name]))) = none →
      Listed tree base (front ++ [name])

def Barred (tree : FileTree) (base : Location) : Prop :=
  ∃ way, Visited tree base way ∧ base ++ way ∈ tree.unlistable

variable {tree : FileTree} {start base : Location} {path : Path} {way front : Location}
  {name : Name}

theorem visits_concat (tree : FileTree) (base front : Location) (name : Name) :
    visits tree base (front ++ [name]) =
      (visits tree base front && !skippedDirectories.contains name.text &&
        ((tree.get? (base ++ (front ++ [name]))).map Entry.isDirectory).getD false) := by
  induction front generalizing base with
  | nil => simp [visits]
  | cons first rest ih =>
    simp only [List.cons_append, visits, ih, Bool.and_assoc, List.append_assoc, List.nil_append]

theorem not_skipped_iff : skippedDirectories.contains name.text = false ↔
    name.text ≠ "node_modules" ∧ name.text ≠ "__pycache__" := by
  simp [skippedDirectories]

/-- The test that the walk makes on the way down accepts the ways to visited directories. -/
theorem visits_iff : visits tree base way = true ↔ Visited tree base way := by
  constructor
  · intro visited
    -- The test goes down from the base, a visited directory is told by the one above it.
    induction way using List.reverseRecOn with
    | nil => exact .top
    | append_singleton front name ih =>
      rw [visits_concat, Bool.and_eq_true, Bool.and_eq_true, Bool.not_eq_true',
        not_skipped_iff] at visited
      obtain ⟨⟨above, noModules, noCache⟩, directory⟩ := visited
      exact .inside (ih above) noModules noCache (directory_of_isDirectory directory)
  · intro visited
    induction visited with
    | top => rfl
    | inside _ noModules noCache directory above =>
      rw [visits_concat, above, not_skipped_iff.2 ⟨noModules, noCache⟩, directory]
      rfl

theorem mem_ways_iff_listed : way ∈ ways tree base ↔ Listed tree base way := by
  rw [mem_ways_iff]
  constructor
  · rintro ⟨front, name, rfl, visited, named, stands, outside⟩
    rw [visits_iff] at visited
    rw [Route.isPageFile_iff] at named
    rw [← Bool.not_eq_true, leadsToDirectory_iff] at outside
    obtain ⟨entry, found⟩ := Option.isSome_iff_exists.1 stands
    cases entry with
    | file content => exact .file visited named found
    | directory => exact absurd (.inl found) outside
    | link target =>
      refine .link visited named found ?_
      rw [Option.eq_none_iff_forall_ne_some]
      exact fun directory leads => outside (.inr ⟨⟨target, found⟩, directory, leads⟩)
  · intro listed
    cases listed with
    | file visited named found =>
      refine ⟨_, _, rfl, visits_iff.2 visited, Route.isPageFile_iff.2 named, by simp [found], ?_⟩
      rw [← Bool.not_eq_true, leadsToDirectory_iff]
      simp [found]
    | link visited named found astray =>
      refine ⟨_, _, rfl, visits_iff.2 visited, Route.isPageFile_iff.2 named, by simp [found], ?_⟩
      rw [← Bool.not_eq_true, leadsToDirectory_iff]
      simp [found, astray]

instance (tree : FileTree) (base way : Location) : Decidable (Listed tree base way) :=
  decidable_of_iff (way ∈ (files tree base).filter fun way =>
      (way.getLast?.map fun name => Route.isPageFile name.text).getD false)
    (List.mem_mergeSort.symm.trans mem_ways_iff_listed)

theorem Listed.mem_below (listed : Listed tree base way) :
    way ∈ (tree.below base).map Prod.fst :=
  have among := List.mem_mergeSort.1 (mem_ways_iff_listed.2 listed)
  (List.mem_filter.1 (List.mem_filter.1 among).1).1

theorem blocked?_eq_none_iff_not_barred : blocked? tree base = none ↔ ¬ Barred tree base := by
  simp only [blocked?_eq_none_iff, visits_iff, Barred, not_exists, not_and]

theorem sources_eq_below (absolute : path.IsAbsolute) (way : Location) :
    (Path.ofLocation start).join (path.join ⟨.relative, way⟩) = path.below way := by
  rw [Path.join, if_neg (Path.join_isAbsolute absolute)]
  exact if_pos rfl

theorem pages_eq_ok_of_open (absolute : path.IsAbsolute)
    (reached : tree.directoryAt? start path = some base) (unbarred : ¬ Barred tree base) :
    pages tree start path = .ok ((ways tree base).map path.below) := by
  refine pages_eq_ok_iff.2 ⟨base, reached, blocked?_eq_none_iff_not_barred.2 unbarred, ?_⟩
  exact List.map_congr_left fun way _ => (sources_eq_below absolute way).symm

/-- Where the path can be looked up, discovery fails with a report exactly if it leads to no
directory or a visited directory may not be listed. -/
theorem reported_of_pages_iff : (∃ error, pages tree start path = .error (.reported error)) ↔
    tree.locate start true path ≠ .error .nameTooLong ∧
      (tree.directoryAt? start path = none ∨
        ∃ base, tree.directoryAt? start path = some base ∧ Barred tree base) := by
  constructor
  · rintro ⟨error, failed⟩
    refine ⟨fun long => (tooLong_iff_of_pages failed).1 long error rfl, ?_⟩
    cases reached : tree.directoryAt? start path with
    | none => exact .inl rfl
    | some base =>
      refine .inr ⟨base, rfl, by_contra fun unbarred => ?_⟩
      rw [pages_eq_ok_iff.2 ⟨base, reached, blocked?_eq_none_iff_not_barred.2 unbarred, rfl⟩]
        at failed
      cases failed
  · rintro ⟨usable, missed⟩
    cases result : pages tree start path with
    | ok sources =>
      obtain ⟨base, reached, listed, _⟩ := pages_eq_ok_iff.1 result
      rw [blocked?_eq_none_iff_not_barred] at listed
      rcases missed with nowhere | ⟨other, same, barred⟩
      · cases reached.symm.trans nowhere
      · cases reached.symm.trans same
        exact absurd barred listed
    | error failure =>
      cases failure with
      | reported error => exact ⟨error, rfl⟩
      | refused error => exact absurd (pages_eq_refused_iff.1 result).2 usable

theorem directoryAt?_of_tooLong (long : tree.locate start true path = .error .nameTooLong) :
    tree.directoryAt? start path = none := by
  refine Option.eq_none_iff_forall_ne_some.2 fun base reached => ?_
  cases long.symm.trans (directoryAt?_eq_some_iff.1 reached).1

/-- What discovery finds below an absolute path whose names are not too long. It fails with a report
exactly where the path leads to no directory or a visited directory may not be listed, except that
a path which cannot be looked up at all is refused without a report. In all other cases the result
is the pages in visited directories, each once and in the order of their relative paths. -/
theorem pages_of_absolute (absolute : path.IsAbsolute)
    (short : ∀ name ∈ path.names, ¬ name.IsTooLong) :
    ((∃ error, pages tree start path = .error (.reported error)) ↔
      tree.locate start true path ≠ .error .nameTooLong ∧
        (tree.directoryAt? start path = none ∨
          ∃ base, tree.directoryAt? start path = some base ∧ Barred tree base)) ∧
    (∀ base, tree.directoryAt? start path = some base → ¬ Barred tree base →
      ∃ found : List Location, pages tree start path = .ok (found.map path.below) ∧
        (∀ way, way ∈ found ↔ Listed tree base way) ∧
        found.Pairwise fun first second => Path.joinNames first < Path.joinNames second) ∧
    (tree.locate start true path = .error .nameTooLong →
      pages tree start path = .error (.refused .nameTooLong) ∧
        tree.directoryAt? start path = none ∧
        (longestPath < path.toString.utf8ByteSize ∨
          ∃ location target, tree.get? location = some (.link target) ∧
            ∃ name ∈ target.path.names, name.IsTooLong)) := by
  refine ⟨reported_of_pages_iff, fun base reached unbarred => ?_, fun long => ?_⟩
  · exact ⟨ways tree base, pages_eq_ok_of_open absolute reached unbarred,
      fun way => mem_ways_iff_listed, pairwise_ways_lt tree base⟩
  · exact ⟨pages_eq_refused_iff.2 ⟨rfl, long⟩, directoryAt?_of_tooLong long,
      long_of_locate short long⟩

/-- Links are listed but not entered, a skipped directory need not be listed, and `a-b` comes before
what is in `a`. -/
theorem pages_among_links :
    let made := [Edit.file (Path.ofString "/p/a/x.tsx") ByteArray.empty,
      .file (Path.ofString "/p/a-b/x.tsx") ByteArray.empty,
      .file (Path.ofString "/p/node_modules/x.tsx") ByteArray.empty,
      .file (Path.ofString "/p/page.jsx/styles.css") ByteArray.empty,
      .link (Path.ofString "/p/lost.tsx") (LinkTarget.ofString "nowhere"),
      .link (Path.ofString "/p/way.tsx") (LinkTarget.ofString "a"),
      .link (Path.ofString "/pages") (LinkTarget.ofString "p/")].foldl
        (fun tree edit => tree.edit [] edit) FileTree.empty
    let tree := { made with unlistable := [Path.namesOf "p/node_modules".toList] }
    pages tree [] (Path.ofString "/pages") = .ok
      (["/pages/a-b/x.tsx", "/pages/a/x.tsx", "/pages/lost.tsx"].map Path.ofString) := by
  intro made tree
  let base : Location := [⟨"p", by decide, by decide, by decide⟩]
  let expected : List Location := [Path.namesOf "a-b/x.tsx".toList, Path.namesOf "a/x.tsx".toList,
    Path.namesOf "lost.tsx".toList]
  have absolute : (Path.ofString "/pages").IsAbsolute := by decide +kernel
  have short : ∀ name ∈ (Path.ofString "/pages").names, ¬ name.IsTooLong := by decide +kernel
  have reached : tree.directoryAt? [] (Path.ofString "/pages") = some base := by decide +kernel
  have unbarred : ¬ Barred tree base := blocked?_eq_none_iff_not_barred.1 (by decide +kernel)
  have among : ∀ way ∈ expected, Listed tree base way := by decide +kernel
  have others : ∀ way ∈ (tree.below base).map Prod.fst, Listed tree base way → way ∈ expected := by
    decide +kernel
  have ordered : expected.Pairwise fun first second =>
      Path.joinNames first < Path.joinNames second := by decide +kernel
  have written : expected.map (Path.ofString "/pages").below =
      ["/pages/a-b/x.tsx", "/pages/a/x.tsx", "/pages/lost.tsx"].map Path.ofString := by
    decide +kernel
  clear_value expected tree base made
  obtain ⟨found, result, listed, increasing⟩ := (pages_of_absolute absolute short).2.1 base
    reached unbarred
  have same : found = expected := eq_of_mem_iff increasing ordered fun way =>
    (listed way).trans ⟨fun page => others way page.mem_below page, among way⟩
  rw [result, same, written]

/-- The target of a link may have a name that is too long, which no report tells of. -/
theorem pages_behind_long_target :
    let long : Name := ⟨String.ofList (List.replicate 256 'a'), by decide +kernel,
      by decide +kernel, by rw [String.toList_ofList]; decide +kernel⟩
    let path := Path.ofString "/p"
    let tree := FileTree.empty.edit [] (.link path ⟨⟨.relative, [long]⟩, false⟩)
    path.IsAbsolute ∧ (∀ name ∈ path.names, ¬ name.IsTooLong) ∧
      tree.directoryAt? [] path = none ∧
      pages tree [] path = .error (.refused .nameTooLong) := by
  decide +kernel

end Discovery

end PageRoutes
