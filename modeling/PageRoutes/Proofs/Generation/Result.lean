import PageRoutes.Proofs.Generation.Events
import PageRoutes.Proofs.RoutesModule.Identifiers
import PageRoutes.Proofs.StagedWrite.ReadBack

/-! The result of a pass.

A pass that succeeds tells the same story in its result, in the module, in the file, and in the log.
Main statement: what it tells is true of the files that were there before the pass, and the text is
read back from the file exactly if what was replaced had not been on the way to the sibling. A pass
whose discovery fails leaves the files alone.
-/

set_option autoImplicit false

namespace PageRoutes

theorem fromUTF8?_eq_some_iff {content : ByteArray} {text : String} :
    String.fromUTF8? content = some text ↔ content = text.toUTF8 := by
  unfold String.fromUTF8?
  constructor
  · intro decoded
    split at decoded
    · cases decoded
      rfl
    · cases decoded
  · rintro rfl
    exact dif_pos text.isValidUTF8

namespace Generation

open FileTree StagedWrite

def moduleParts (surroundings : Surroundings) (config : Config) (sources : List Path) :
    List (List Char) :=
  let tree := RouteTree.ofFiles surroundings.workingDirectory config.pagesPath sources
  RoutesModule.parts surroundings.workingDirectory tree.files (Declaration.ofRoot tree.root)
    config.outputPath config.importSource

/-- What the result of a pass says, and what the pass has left, are true of the sources that it found
in the files before it, and of the place that it wrote to. -/
structure Faithful (surroundings : Surroundings) (config : Config) (before : Workspace)
    (result : PassResult) (after : Workspace) (sources : List Path) (directory : Location)
    (name : Name) : Prop where
  discovered : Discovery.pages before.files surroundings.start config.pagesPath = .ok sources
  text : result.text = RoutesModule.render surroundings.workingDirectory sources config
  assembled : result.text.toList =
    Text.joinLines (moduleParts surroundings config sources) ++ ['\n']
  output : result.outputPath = config.outputPath
  found : result.fileCount = sources.length
  declared : ((moduleParts surroundings config sources).filterMap RoutesModule.lazyName?).length =
    result.fileCount
  encoded : result.byteCount = result.text.utf8ByteSize
  logged : after.log = before.log.map fun log => log.append
    (.routesGenerated config.pagesPath.toString result.outputPath.toString result.fileCount
      result.byteCount result.duration (before.clock + 1))
  place : place? before.files surroundings.start config.outputPath = some (directory, name)
  read : (∃ content, after.files.content surroundings.start result.outputPath = .ok content ∧
      String.fromUTF8? content = some result.text ∧ content.size = result.byteCount) ↔
    Detached (before.files.makeDirectories surroundings.start config.outputPath.parent).tree
      surroundings.start config.outputPath directory name
  unlinked : (∀ target, before.files.get? (directory ++ [name]) ≠ some (.link target)) →
    (∀ target, before.files.get? (directory ++ [hiddenName name]) ≠ some (.link target)) →
    Detached (before.files.makeDirectories surroundings.start config.outputPath.parent).tree
      surroundings.start config.outputPath directory name

variable (surroundings : Surroundings) (config : Config)

theorem length_declared (sources : List Path) :
    ((moduleParts surroundings config sources).filterMap RoutesModule.lazyName?).length =
      sources.length := by
  have words : ∀ page ∈ Page.number sources, ' ' ∉ page.component.toList :=
    fun page listed => (Declaration.isWord_of_mem_number listed).no_space
  have declared : (moduleParts surroundings config sources).filterMap RoutesModule.lazyName? =
      (Page.number sources).map Page.component := RoutesModule.lazyName?_parts _ _ _ _ words
  rw [declared, Page.map_component_number, List.length_map, List.length_range]

theorem toList_render (sources : List Path) :
    (RoutesModule.render surroundings.workingDirectory sources config).toList =
      Text.joinLines (moduleParts surroundings config sources) ++ ['\n'] :=
  RoutesModule.toList_assemble _ _ _ _ _

/-- A pass that succeeds is faithful to the files before it, and one whose discovery fails leaves them
alone. -/
theorem faithful_pass (quiet : Bool) {workspace : Workspace} (grounded : Grounded workspace.files)
    (standing : workspace.files.get? surroundings.start = some .directory) :
    let ended := pass surroundings config quiet workspace
    (∀ result, ended.1 = .ok result → ∃ sources directory name,
      Faithful surroundings config workspace result ended.2 sources directory name) ∧
    ∀ failure, ended.1 = .error (.discovery failure) → ended.2.files = workspace.files := by
  dsimp only
  constructor
  · intro result passed
    -- The log tells of the result as it is, so this comes before the result is taken apart.
    have logged := log_pass surroundings config quiet workspace
    simp only [passed] at logged
    obtain ⟨sources, count, discovered, wrote, left, rfl⟩ := steps_of_pass passed
    obtain ⟨directory, name, place⟩ := exists_place?_of_run wrote
    obtain ⟨_, _, _, _, _, _, _, size⟩ := steps_of_run wrote
    have read := content_of_run_iff grounded standing wrote place
    rw [← left] at read
    refine ⟨sources, directory, name, ?_⟩
    constructor
    case discovered => exact discovered
    case text => rfl
    case assembled => exact toList_render surroundings config sources
    case output => rfl
    case found => rfl
    case declared => exact length_declared surroundings config sources
    case encoded => exact size
    case logged => exact logged
    case place => exact place
    case unlinked => exact detached_of_run wrote place
    case read =>
      rw [← read]
      constructor
      · rintro ⟨content, stands, decoded, _⟩
        rw [fromUTF8?_eq_some_iff] at decoded
        exact decoded ▸ stands
      · exact fun stands => ⟨_, stands, fromUTF8?_eq_some_iff.2 rfl, size.symm⟩
  · intro failure failed
    have course := pass_eq surroundings config quiet workspace
    simp only [failed] at course
    split at course
    · exact course.2
    · obtain ⟨_, outcome⟩ := course
      split at outcome <;> cases outcome

/-- A module that comes to stand among the pages, written through a link beside it. -/
theorem faithful_pass_through_link :
    let surroundings : Surroundings := ⟨[], ⟨Number.Real.zero⟩, ⟨none, none, false⟩⟩
    let config : Config :=
      ⟨Path.root, "p", "p/router.tsx", Config.defaultImportSource, by decide, by decide⟩
    let files := (FileTree.empty.edit [] (.file (Path.ofString "/p/é.tsx") ByteArray.empty)).edit []
      (.link (Path.ofString "/p/.router.tsx.tmp") (LinkTarget.ofString "../draft"))
    let workspace : Workspace := ⟨files, 0, some EventLog.standard, ""⟩
    let ended := pass surroundings config true workspace
    Grounded files ∧ ∃ result content, ended.1 = .ok result ∧
      ended.2.files.content [] config.outputPath = .ok content ∧
      String.fromUTF8? content = some result.text ∧ content.size = result.byteCount := by
  intro surroundings config files workspace ended
  let p : Name := ⟨"p", by decide, by decide, by decide⟩
  let draft : Name := ⟨"draft", by decide, by decide, by decide⟩
  let router : Name := ⟨"router.tsx", by decide, by decide, by decide⟩
  have grounded : Grounded workspace.files := by decide +kernel
  have succeeds : ended.1.isOk = true := by decide +kernel
  have place : place? files [] config.outputPath = some ([p], router) := by decide +kernel
  have located : (files.makeDirectories [] config.outputPath.parent).tree.locate [] true
      (hiddenSibling config.outputPath router) = .ok (.free [] draft) := by decide +kernel
  have without : ((files.makeDirectories [] config.outputPath.parent).tree.erase
      ([p] ++ [router])).locate [] true (hiddenSibling config.outputPath router) =
        .ok (.free [] draft) := by decide +kernel
  have apart : (Target.free [] draft).location ≠ [p] ++ [router] := by decide
  cases outcome : ended.1 with
  | error failure =>
    rw [outcome] at succeeds
    cases succeeds
  | ok result =>
    obtain ⟨sources, directory, name, faithful⟩ :=
      (faithful_pass surroundings config true grounded rfl).1 result outcome
    cases place.symm.trans faithful.place
    obtain ⟨content, read⟩ := faithful.read.2 (by
      intro goal found
      cases located.symm.trans found
      exact ⟨without, apart⟩)
    rw [faithful.output] at read
    exact ⟨grounded, result, content, rfl, read⟩

/-- A link in the place of the module can be on the way to the module, and a link in the place of the
sibling can lead to the module. Then the pass succeeds, and no module is there. -/
theorem unreadable_behind_links :
    let surroundings : Surroundings := ⟨[], ⟨Number.Real.zero⟩, ⟨none, none, false⟩⟩
    let ended (output : String) (files : FileTree) :=
      let config : Config :=
        ⟨Path.root, "p", output, Config.defaultImportSource, by decide, by decide⟩
      let done := pass surroundings config true
        ⟨files.edit [] (.directory (Path.ofString "/p")), 0, none, ""⟩
      (done.1.isOk, done.2.files.content [] config.outputPath)
    let behind := (FileTree.empty.edit [] (.directory (Path.ofString "/a/b"))).edit []
      (.link (Path.ofString "/a/router.tsx") (LinkTarget.ofString "b"))
    let around := (FileTree.empty.edit [] (.directory (Path.ofString "/a"))).edit []
      (.link (Path.ofString "/a/.router.tsx.tmp") (LinkTarget.ofString "router.tsx"))
    ended "a/router.tsx/../router.tsx" behind = (true, .error .notDirectory) ∧
      ended "a/router.tsx" around = (true, .error .tooManyLinks) := by
  decide +kernel

end Generation

end PageRoutes
