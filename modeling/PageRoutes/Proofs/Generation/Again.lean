import PageRoutes.Proofs.Discovery.Written
import PageRoutes.Proofs.Watch.Output

/-! A pass after a pass.

The first pass leaves directories and the module behind, and the second looks for pages among them.
Main statement: unless the output is a page that only the first pass has made, or a way leads through
what the first pass has made or replaced, the second pass finds the same pages, writes the same text,
and leaves every entry as it is.
-/

set_option autoImplicit false

namespace PageRoutes.Generation

open FileTree StagedWrite

variable (surroundings : Surroundings) (config : Config)

/-- What a write to the output needs in order not to disturb discovery. No link stands in the place
of the sibling. Once the directories are made, the output is no link to a directory, and no page
has come to be one. And the output is no page, or it was one before. -/
structure Steady (files : FileTree) (directory : Location) (name : Name) : Prop where
  sibling : ∀ target, files.get? (directory ++ [hiddenName name]) ≠ some (.link target)
  output : (files.makeDirectories surroundings.start config.outputPath.parent).tree.directoryAt?
    directory ⟨.relative, [name]⟩ = none
  pages : ∀ base way, files.directoryAt? surroundings.start config.pagesPath = some base →
    way ∈ Discovery.ways files base →
    Discovery.leadsToDirectory
      (files.makeDirectories surroundings.start config.outputPath.parent).tree (base ++ way) = false
  page : ∀ base front, files.directoryAt? surroundings.start config.pagesPath = some base →
    directory = base ++ front → Discovery.IsOpen front → Route.isPageFile name.text = true →
    front ++ [name] ∈ Discovery.ways files base

variable {surroundings config} {files : FileTree} {directory : Location} {name : Name}

section Steady

variable {text : String} {count : Nat} (grounded : Grounded files)
  (standing : files.get? surroundings.start = some .directory)
  (succeeds : (run files surroundings.start config.outputPath text).outcome = .ok count)
  (place : place? files surroundings.start config.outputPath = some (directory, name))
  (steady : Steady surroundings config files directory name)

include grounded standing succeeds place steady in
theorem prepared_of_steady :
    Prepared (files.makeDirectories surroundings.start config.outputPath.parent).tree
      directory name := by
  obtain ⟨writable, plain, _, _, _⟩ := written_of_run succeeds place steady.sibling
  obtain ⟨_, reached⟩ := place?_eq_some_iff.1 place
  exact ⟨grounded.makeDirectories standing _, (directoryAt?_eq_some_iff.1 reached).2,
    isBlind_of_directoryAt? writable.output steady.output, plain⟩

include grounded standing succeeds place steady in
theorem holds_of_steady : Writable config.outputPath name ∧
    Holds (run files surroundings.start config.outputPath text).tree surroundings.start
      config.outputPath directory name text.toUTF8 := by
  obtain ⟨writable, _, _, _, left⟩ := written_of_run succeeds place steady.sibling
  have prepared := prepared_of_steady grounded standing succeeds place steady
  have made := addsDirectories_makeDirectories files surroundings.start config.outputPath.parent
  obtain ⟨_, reached⟩ := place?_eq_some_iff.1 place
  rw [left]
  exact ⟨writable, prepared.directoryAt?_written (made.get?_of_some standing) reached,
    get?_written_output _ _ _ _, get?_written_sibling _ _ _ _⟩

include grounded standing succeeds place steady in
theorem pages_of_steady {sources : List Path}
    (discovered : Discovery.pages files surroundings.start config.pagesPath = .ok sources) :
    Discovery.pages (run files surroundings.start config.outputPath text).tree surroundings.start
      config.pagesPath = .ok sources := by
  obtain ⟨_, _, _, _, left⟩ := written_of_run succeeds place steady.sibling
  have prepared := prepared_of_steady grounded standing succeeds place steady
  have made := addsDirectories_makeDirectories files surroundings.start config.outputPath.parent
  rw [left]
  refine Discovery.pages_congr discovered fun base reached =>
    ⟨base, ?_, ?_, fun way => ⟨?_, ?_⟩⟩
  · exact prepared.directoryAt?_written (made.get?_of_some standing)
      (directoryAt?_keepsWays made.keepsWays reached)
  · exact Discovery.blocked?_eq_none_of_grounded grounded (unlistable_makeDirectories _ _ _)
  · exact Discovery.mem_ways_of_written grounded made prepared
      fun front => steady.page base front reached
  · exact Discovery.mem_ways_written grounded made prepared
      fun way => steady.pages base way reached

end Steady

theorem get?_run_of_holds {start : Location} {path : Path} {text : String}
    (writable : Writable path name)
    (holds : Holds files start path directory name text.toUTF8) (location : Location) :
    (run files start path text).tree.get? location = files.get? location := by
  rw [(written_of_holds text writable holds).2]
  rcases get?_written_cases files directory name text.toUTF8 location with
    ⟨rfl, file⟩ | ⟨rfl, none⟩ | ⟨_, same⟩
  · rw [file, holds.output]
  · rw [none, holds.sibling]
  · exact same

variable (surroundings config)

/-- After a steady pass that succeeded, any further pass over the files that it left comes to the
same result, and neither the module nor anything else changes. -/
theorem pass_again (quiet : Bool) {workspace done : Workspace} {result : PassResult}
    (grounded : Grounded workspace.files)
    (standing : workspace.files.get? surroundings.start = some .directory)
    (begun : pass surroundings config quiet workspace = (.ok result, done)) :
    ∃ directory name,
      place? workspace.files surroundings.start config.outputPath = some (directory, name) ∧
      (Steady surroundings config workspace.files directory name →
        done.files.content surroundings.start config.outputPath = .ok result.text.toUTF8 ∧
        ∀ (quiet : Bool) (later : Workspace), later.files = done.files →
          let again := pass surroundings config quiet later
          again.1 = .ok result ∧
            ∀ location, again.2.files.get? location = done.files.get? location) := by
  have passed : (pass surroundings config quiet workspace).1 = .ok result := by rw [begun]
  obtain ⟨sources, count, discovered, succeeds, left, rfl⟩ := steps_of_pass passed
  rw [begun] at left
  obtain ⟨directory, name, place⟩ := exists_place?_of_run succeeds
  refine ⟨directory, name, place, fun steady => ?_⟩
  obtain ⟨_, _, _, size, _⟩ := written_of_run succeeds place steady.sibling
  obtain ⟨writable, holds⟩ := holds_of_steady grounded standing succeeds place steady
  have same := pages_of_steady grounded standing succeeds place steady discovered
  rw [← left] at holds same
  refine ⟨content_of_holds writable holds, fun quiet later found => ?_⟩
  rw [← found] at same holds
  obtain ⟨outcome, after⟩ := pass_of_steps quiet same (run_of_holds _ writable holds).1
  rw [← Except.ok.inj (succeeds.symm.trans size)] at outcome
  refine ⟨outcome, fun location => ?_⟩
  rw [after, ← found]
  exact get?_run_of_holds writable holds location

/-- The output is a page that was there before. -/
theorem pass_again_over_listed_output :
    let surroundings : Surroundings := ⟨[], ⟨Number.Real.zero⟩, ⟨none, none, false⟩⟩
    let config : Config :=
      ⟨Path.root, "p", "p/new/../router.tsx", "react-router-dom", by decide, by decide⟩
    let files :=
      FileTree.empty.edit [] (.file (Path.ofString "/p/router.tsx") ByteArray.empty)
    let first := pass surroundings config true ⟨files, 0, none, ""⟩
    let second := pass surroundings config true first.2
    ∃ result, first.1 = .ok result ∧ result.fileCount = 1 ∧ second.1 = .ok result := by
  intro surroundings config files first second
  let pages : Location := [⟨"p", by decide, by decide, by decide⟩]
  let router : Name := ⟨"router.tsx", by decide, by decide, by decide⟩
  have grounded : Grounded files := by decide +kernel
  have place : place? files [] config.outputPath = some (pages, router) := by decide +kernel
  have reached : files.directoryAt? [] config.pagesPath = some pages := by decide +kernel
  have free : files.get? (pages ++ [hiddenName router]) = none := by decide +kernel
  have output : (files.makeDirectories [] config.outputPath.parent).tree.directoryAt? pages
      ⟨.relative, [router]⟩ = none := by decide +kernel
  have apart : ∀ way ∈ Discovery.ways files pages, Discovery.leadsToDirectory
      (files.makeDirectories [] config.outputPath.parent).tree (pages ++ way) = false := by
    decide +kernel
  have listed : [router] ∈ Discovery.ways files pages := by decide +kernel
  have counted : first.1.toOption.map PassResult.fileCount = some 1 := by decide +kernel
  -- From here on nothing may compute with the files.
  clear_value files pages router
  cases passed : first.1 with
  | error failure =>
    rw [passed] at counted
    cases counted
  | ok result =>
    rw [passed] at counted
    obtain ⟨directory, name, found, again⟩ := pass_again surroundings config true grounded
      (get?_root _) (Prod.ext passed rfl : first = (.ok result, first.2))
    cases place.symm.trans found
    refine ⟨result, rfl, Option.some.inj counted, ((again ?_).2 true first.2 rfl).1⟩
    refine ⟨by simp [free], output, fun base way same => ?_, fun base front same => ?_⟩
    · cases reached.symm.trans same
      exact apart way
    · cases reached.symm.trans same
      intro above _ _
      rw [List.self_eq_append_right.1 above]
      exact listed

/-- The numbers of pages of two passes in a row, if they succeed. The second counts a new output in
the pages directory, and a page that the first has written through a link in the place of the
sibling. It no longer counts a link to a directory that the first has made. And it fails where the
first has replaced a link on the way to the output. -/
theorem second_pass_differs :
    let counts (edits : List Edit) (output : String) : Option Nat × Option Nat :=
      let surroundings : Surroundings := ⟨[], ⟨Number.Real.zero⟩, ⟨none, none, false⟩⟩
      let config : Config := ⟨Path.root, "p", output, "react-router-dom", by decide, by decide⟩
      let files := (Edit.directory (Path.ofString "/p") :: edits).foldl
        (fun files edit => files.edit [] edit) FileTree.empty
      let first := pass surroundings config true ⟨files, 0, none, ""⟩
      let second := pass surroundings config true first.2
      (first.1.toOption.map PassResult.fileCount, second.1.toOption.map PassResult.fileCount)
    let link (path target : String) : Edit := .link (Path.ofString path) (LinkTarget.ofString target)
    counts [] "p/router.tsx" = (some 0, some 1) ∧
      counts [link "/.router.tsx.tmp" "p/page.tsx"] "router.tsx" = (some 0, some 1) ∧
      counts [link "/p/page.tsx" "../new/dir"] "new/dir/router.tsx" = (some 1, some 0) ∧
      counts [.directory (Path.ofString "/a/b"), link "/a/router.tsx" "b"]
        "a/router.tsx/../router.tsx" = (some 0, none) := by
  decide +kernel

end PageRoutes.Generation
