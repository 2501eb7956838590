import PageRoutes.Proofs.Discovery.Sight
import PageRoutes.Proofs.StagedWrite
import PageRoutes.Proofs.Watch.Moments

/-! Passes over files that look alike.

The module that a pass renders is a matter of the paths that it discovers, and they are a matter of
what there is to be seen at and below the pages directory. So two passes over different files have
the same result wherever those files look alike from there.
-/

set_option autoImplicit false

namespace PageRoutes.Generation

open FileTree

variable {surroundings otherSurroundings : Surroundings} {config : Config}
  {quiet otherQuiet : Bool} {workspace otherWorkspace : Workspace}

theorem byteCount_of_pass {result : PassResult}
    (passed : (pass surroundings config quiet workspace).1 = .ok result) :
    result.byteCount = result.text.toUTF8.size := by
  obtain ⟨sources, count, _, wrote, _, rfl⟩ := steps_of_pass passed
  obtain ⟨_, _, _, _, _, _, _, size⟩ := StagedWrite.steps_of_run wrote
  exact size

/-- From the path of the pages, files that look alike give the same discovery, or none. Two passes
over them that succeed have the same text, as many pages, and as many bytes. What stands outside of
the pages directory, what is in the files, in which order they are listed, how long a pass takes
and where it prints makes no difference. -/
theorem pass_of_alike (home : otherSurroundings.start = surroundings.start)
    (alike : Discovery.Alike workspace.files otherWorkspace.files surroundings.start
      config.pagesPath) :
    let found := Discovery.pages workspace.files surroundings.start config.pagesPath
    let otherFound := Discovery.pages otherWorkspace.files otherSurroundings.start config.pagesPath
    (found.isOk = false ∧ otherFound.isOk = false ∨
      ∃ sources, found = .ok sources ∧ otherFound = .ok sources) ∧
    ∀ result other, (pass surroundings config quiet workspace).1 = .ok result →
      (pass otherSurroundings config otherQuiet otherWorkspace).1 = .ok other →
      other.text = result.text ∧ other.fileCount = result.fileCount ∧
        other.byteCount = result.byteCount := by
  intro found otherFound
  have same : ∀ sources, found = .ok sources ↔ otherFound = .ok sources := by
    intro sources
    unfold found otherFound
    rw [home]
    exact Discovery.pages_eq_ok_iff_of_alike alike
  constructor
  · cases here : found with
    | ok sources => exact .inr ⟨sources, rfl, (same sources).1 here⟩
    | error failure =>
      cases there : otherFound with
      | ok sources => cases here.symm.trans ((same sources).2 there)
      | error otherFailure => exact .inl ⟨rfl, rfl⟩
  · intro result other passed otherPassed
    obtain ⟨sources, _, here, _, _, shape⟩ := steps_of_pass passed
    obtain ⟨otherSources, _, there, _, _, otherShape⟩ := steps_of_pass otherPassed
    -- Both passes render the same paths, seen from the same working directory.
    cases ((same sources).1 here).symm.trans there
    have text : other.text = result.text := by
      rw [otherShape, shape, Surroundings.workingDirectory, home]
      rfl
    refine ⟨text, by rw [otherShape, shape], ?_⟩
    rw [byteCount_of_pass otherPassed, byteCount_of_pass passed, text]

/-- The same pages in another order with other contents, in a directory behind a link. -/
theorem pass_of_alike_behind_link :
    let surroundings : Surroundings := ⟨[], ⟨Number.Real.zero⟩, ⟨none, none, false⟩⟩
    let config : Config :=
      ⟨Path.ofString "/w", "p", "router.tsx", "react-router-dom", by decide, by decide⟩
    let page (path content : String) : Edit := .file (Path.ofString path) content.toUTF8
    let link (path target : String) : Edit :=
      .link (Path.ofString path) (LinkTarget.ofString target)
    let made (edits : List Edit) : Workspace :=
      ⟨edits.foldl (fun files edit => files.edit [] edit) FileTree.empty, 0, none, ""⟩
    let workspace := made [page "/w/p/index.tsx" "one", page "/w/p/[id].tsx" "two",
      link "/w/p/lost.tsx" "nowhere"]
    let other := made [link "/srv/p/lost.tsx" "astray", page "/srv/p/[id].tsx" "three",
      page "/srv/p/index.tsx" "four", page "/srv/router.tsx" "old", link "/w" "srv"]
    ∃ result otherResult, (pass surroundings config true workspace).1 = .ok result ∧
      (pass surroundings config true other).1 = .ok otherResult ∧
      otherResult.text = result.text ∧ otherResult.fileCount = result.fileCount ∧
      otherResult.byteCount = result.byteCount := by
  intro surroundings config page link made workspace other
  let base : Location := Path.namesOf "w/p".toList
  let otherBase : Location := Path.namesOf "srv/p".toList
  have reached : workspace.files.directoryAt? [] config.pagesPath = some base := by decide +kernel
  have otherReached : other.files.directoryAt? [] config.pagesPath = some otherBase := by
    decide +kernel
  have sights : Discovery.SameSights workspace.files other.files base otherBase := by
    decide +kernel
  have succeeds : (pass surroundings config true workspace).1.isOk = true := by decide +kernel
  have otherSucceeds : (pass surroundings config true other).1.isOk = true := by decide +kernel
  clear_value workspace other base otherBase
  have alike : Discovery.Alike workspace.files other.files [] config.pagesPath := by
    refine ⟨by rw [reached, otherReached]; rfl, fun first second here there => ?_⟩
    cases reached.symm.trans here
    cases otherReached.symm.trans there
    exact sights
  cases passed : (pass surroundings config true workspace).1 with
  | error failure =>
    rw [passed] at succeeds
    cases succeeds
  | ok result =>
    cases otherPassed : (pass surroundings config true other).1 with
    | error failure =>
      rw [otherPassed] at otherSucceeds
      cases otherSucceeds
    | ok otherResult =>
      exact ⟨result, otherResult, rfl, rfl,
        (pass_of_alike rfl alike).2 result otherResult passed otherPassed⟩

end PageRoutes.Generation
