import PageRoutes.Proofs.Discovery.LinkFree
import PageRoutes.Proofs.Generation.Again
import PageRoutes.Proofs.Path.Below

/-! No lost update in the course of a session.

A batch without page changes has no pass, so the module may only stay as it is if the batch has
changed nothing that discovery looks at. Main statement: without symbolic links, with the output
outside the pages directory, and if every batch reports what has appeared or disappeared there, the
module is that of the files as they are, after every batch that was handled to its end, unless the
last pass has failed.
-/

set_option autoImplicit false

namespace PageRoutes

theorem Config.pagesPath_isAbsolute (config : Config) : config.pagesPath.IsAbsolute :=
  config.fromRoot_isAbsolute _

theorem Config.outputPath_isAbsolute (config : Config) : config.outputPath.IsAbsolute :=
  config.fromRoot_isAbsolute _

theorem PageChange.not_isUnder_of_relevant_eq_nil {config : Config}
    {changes : List (RawChange × String)} (irrelevant : relevant config changes = [])
    {change : RawChange} {text : String} (member : (change, text) ∈ changes)
    (moved : change ≠ .modified) : ¬ (Path.ofString text).IsUnder config.pagesPath := by
  intro under
  obtain ⟨kind, known⟩ : ∃ kind, kindOf? change = some kind := by
    cases change with
    | added => exact ⟨_, rfl⟩
    | modified => exact absurd rfl moved
    | deleted => exact ⟨_, rfl⟩
  have listed : (⟨Path.ofString text, kind⟩ : PageChange) ∈ relevant config changes := by
    rw [relevant, List.mem_mergeSort, List.mem_filterMap]
    exact ⟨(change, text), List.mem_eraseDups.2 member, by simp [classify?, known, under]⟩
  rw [irrelevant] at listed
  cases listed

namespace Generation

open FileTree StagedWrite

variable (surroundings : Surroundings) (config : Config)

/-- Whether a file or a directory stands on a way from the pages directory. -/
def kindAt? (files : FileTree) (way : Location) : Option Bool :=
  (files.directoryAt? surroundings.start config.pagesPath).bind fun base =>
    (files.get? (base ++ way)).map Entry.isDirectory

/-- The batch reports, as added or as deleted, every path at or below the pages directory that has
appeared or disappeared. A file that has given place to a directory has disappeared, too. -/
def Moment.Reported (moment : Moment) : Prop :=
  ∀ way, kindAt? surroundings config moment.found way ≠
      kindAt? surroundings config moment.edited way →
    ∃ change text, (change, text) ∈ moment.batch.changes ∧ change ≠ .modified ∧
      Path.ofString text = config.pagesPath.below way

theorem kindAt?_eq {files : FileTree} {base : Location}
    (reached : files.directoryAt? surroundings.start config.pagesPath = some base)
    (way : Location) : kindAt? surroundings config files way =
      (files.get? (base ++ way)).map Entry.isDirectory := by
  rw [kindAt?, reached, Option.bind_some]

def waysBelow (files : FileTree) : List Location :=
  match files.directoryAt? surroundings.start config.pagesPath with
  | some base => (files.below base).map Prod.fst
  | none => []

theorem kindAt?_eq_none {files : FileTree} {way : Location} (below : way ≠ [])
    (missing : way ∉ waysBelow surroundings config files) :
    kindAt? surroundings config files way = none := by
  unfold waysBelow at missing
  cases reached : files.directoryAt? surroundings.start config.pagesPath with
  | none => rw [kindAt?, reached, Option.bind_none]
  | some base =>
    simp only [reached, mem_below_iff, not_and] at missing
    rw [kindAt?_eq surroundings config reached, Option.map_eq_none_iff, ← Option.not_isSome_iff_eq_none]
    exact missing below

/-- Whether a batch reports enough is told by what stands below the pages directory. -/
theorem reported_iff {moment : Moment} : moment.Reported surroundings config ↔
    ∀ way ∈ [] :: (waysBelow surroundings config moment.found ++
        waysBelow surroundings config moment.edited),
      kindAt? surroundings config moment.found way ≠
        kindAt? surroundings config moment.edited way →
      ∃ found ∈ moment.batch.changes, found.1 ≠ .modified ∧
        Path.ofString found.2 = config.pagesPath.below way := by
  constructor
  · intro reported way _ changed
    obtain ⟨change, text, member, moved, same⟩ := reported way changed
    exact ⟨(change, text), member, moved, same⟩
  · intro reported way changed
    have listed : way ∈ [] :: (waysBelow surroundings config moment.found ++
        waysBelow surroundings config moment.edited) := by
      by_contra missing
      simp only [List.mem_cons, List.mem_append, not_or] at missing
      obtain ⟨below, before, after⟩ := missing
      exact changed ((kindAt?_eq_none surroundings config below before).trans
        (kindAt?_eq_none surroundings config below after).symm)
    obtain ⟨⟨change, text⟩, member, moved, same⟩ := reported way listed changed
    exact ⟨change, text, member, moved, same⟩

instance (moment : Moment) : Decidable (moment.Reported surroundings config) :=
  decidable_of_iff _ (reported_iff surroundings config).symm

def lastSucceeds (first : Bool) (moments : List Moment) : Bool :=
  (moments.filterMap fun moment => moment.outcome.map Except.isOk).getLastD first

@[simp] theorem lastSucceeds_nil (first : Bool) : lastSucceeds first [] = first := rfl

@[simp] theorem lastSucceeds_cons (first : Bool) (moment : Moment) (rest : List Moment) :
    lastSucceeds first (moment :: rest) =
      lastSucceeds ((moment.outcome.map Except.isOk).getD first) rest :=
  getLastD_filterMap_cons _ _ _ _

/-- A complete module among files without links. After a pass that has succeeded, it is the module
of the pages that are there. -/
structure Current (files : FileTree) (directory : Location) (name : Name) (text : String)
    (succeeded : Bool) : Prop where
  holds : Holds files surroundings.start config.outputPath directory name text.toUTF8
  linkFree : files.LinkFree
  renders : succeeded = true → Renders surroundings config files text

variable {surroundings config} {files : FileTree} {base directory : Location} {name : Name}
  {text : String} {succeeded : Bool}

theorem linkFree_written {content : ByteArray} (free : files.LinkFree) :
    (written files directory name content).LinkFree := by
  have staged : (files.place (directory ++ [hiddenName name]) (.file content)).LinkFree :=
    free.place (by simp) nofun
  have moved : ((files.place (directory ++ [hiddenName name]) (.file content)).erase
      (directory ++ [hiddenName name])).LinkFree := staged.restrict _
  exact moved.place (by simp) nofun

theorem sameKinds_of_kindAt? {edited : FileTree} (free : files.LinkFree)
    (editedFree : edited.LinkFree)
    (kinds : ∀ way, kindAt? surroundings config files way = kindAt? surroundings config edited way)
    (reached : files.directoryAt? surroundings.start config.pagesPath = some base) :
    edited.directoryAt? surroundings.start config.pagesPath = some base ∧
      Discovery.SameKinds files edited base := by
  have here := kinds []
  rw [kindAt?_eq surroundings config reached, List.append_nil, (directoryAt?_eq_some_iff.1 reached).2] at here
  cases there : edited.directoryAt? surroundings.start config.pagesPath with
  | none =>
    rw [kindAt?, there] at here
    cases here
  | some other =>
    have same : other = base :=
      (editedFree.directoryAt?_eq config.pagesPath_isAbsolute there).trans
        (free.directoryAt?_eq config.pagesPath_isAbsolute reached).symm
    subst same
    refine ⟨rfl, fun way => ?_⟩
    rw [← kindAt?_eq surroundings config reached, kinds, kindAt?_eq surroundings config there]

/-- A batch that reports what has come and gone, and has no page changes, leaves the module the
module of the pages. -/
theorem renders_of_irrelevant {moment : Moment} (free : moment.found.LinkFree)
    (editedFree : moment.edited.LinkFree)
    (unlistable : moment.edited.unlistable = moment.found.unlistable)
    (reported : moment.Reported surroundings config)
    (irrelevant : PageChange.relevant config moment.batch.changes = [])
    (renders : Renders surroundings config moment.found text) :
    Renders surroundings config moment.edited text := by
  have kinds : ∀ way, kindAt? surroundings config moment.found way =
      kindAt? surroundings config moment.edited way := by
    intro way
    by_contra changed
    obtain ⟨change, written, member, moved, same⟩ := reported way changed
    refine PageChange.not_isUnder_of_relevant_eq_nil irrelevant member moved ?_
    rw [same]
    exact ⟨rfl, List.prefix_append _ _⟩
  obtain ⟨sources, discovered, rfl⟩ := renders
  exact ⟨sources, Discovery.pages_of_sameKinds free editedFree unlistable
    (fun base => sameKinds_of_kindAt? free editedFree kinds) discovered, rfl⟩

theorem renders_of_holds {old : ByteArray} {content : ByteArray} (free : files.LinkFree)
    (holds : Holds files surroundings.start config.outputPath directory name old)
    (renders : Renders surroundings config files text) :
    Renders surroundings config (written files directory name content) text := by
  obtain ⟨sources, discovered, rfl⟩ := renders
  refine ⟨sources, Discovery.pages_of_sameKinds free (linkFree_written free) rfl
    (fun base reached => ⟨?_, fun way => ?_⟩) discovered, rfl⟩
  · exact directoryAt?_keepsWays
      (keepsWays_written (.inr ⟨old, holds.output⟩) (.inl holds.sibling)) reached
  · rcases get?_written_cases files directory name content (base ++ way) with
      ⟨there, file⟩ | ⟨beside, none⟩ | ⟨_, same⟩
    · rw [file, there, holds.output]
      rfl
    · rw [none, beside, holds.sibling]
    · rw [same]

/-- A pass over a complete module leaves the module of the pages that are there, or it fails and
leaves the files alone. -/
theorem current_of_attempt (writable : Writable config.outputPath name)
    (current : Current surroundings config files directory name text succeeded) :
    (∃ failure, attempt surroundings config files = (.error failure, files)) ∨
      ∃ result, (attempt surroundings config files).1 = .ok result ∧
        Current surroundings config (attempt surroundings config files).2 directory name
          result.text true := by
  rcases attempt_of_holds writable current.holds with failed | ⟨result, passed, after⟩
  · exact .inl failed
  · obtain ⟨renders, count, wrote, left⟩ := attempt_eq_ok passed
    rw [(written_of_holds result.text writable current.holds).2] at left
    refine .inr ⟨result, passed, after, ?_, fun _ => ?_⟩
    · rw [left]
      exact linkFree_written current.linkFree
    · rw [left]
      exact renders_of_holds current.linkFree current.holds renders

theorem current_left {batch : Batch} (writable : Writable config.outputPath name)
    (current : Current surroundings config files directory name text succeeded)
    (goes : batch.interrupt = false)
    (whole : (momentOf surroundings config batch files).cut = false)
    (unlinked : ∀ path target, Edit.link path target ∉ batch.edits)
    (untouched : (momentOf surroundings config batch files).Untouched surroundings config
      directory name)
    (reported : (momentOf surroundings config batch files).Reported surroundings config) :
    let moment := momentOf surroundings config batch files
    Current surroundings config moment.left directory name (moment.text?.getD text)
      ((moment.outcome.map Except.isOk).getD succeeded) := by
  intro moment
  have free : moment.edited.LinkFree := by
    rw [edited_momentOf]
    exact current.linkFree.edits unlinked
  have edited := holds_edited current.holds untouched
  rcases momentOf_cases surroundings config batch files with
    ⟨passedOver, same⟩ | ⟨_, _, _, _, same⟩ | ⟨_, _, _, same⟩
  · have irrelevant := passedOver.resolve_left (by simp [goes])
    have renders : succeeded = true → Renders surroundings config moment.edited text := by
      intro succeeds
      refine renders_of_irrelevant ?_ free ?_ reported ?_ ?_
      · rw [found_momentOf]
        exact current.linkFree
      · rw [edited_momentOf, found_momentOf]
        exact unlistable_edits _ _ _
      · rw [batch_momentOf]
        exact irrelevant
      · rw [found_momentOf]
        exact current.renders succeeds
    simp only [moment, same] at edited free renders ⊢
    exact ⟨edited, free, renders⟩
  · rw [same] at whole
    cases whole
  · simp only [moment, same] at edited free ⊢
    have before : Current surroundings config _ directory name text false :=
      ⟨edited, free, fun failed => absurd failed Bool.false_ne_true⟩
    rcases current_of_attempt writable before with ⟨failure, failed⟩ | ⟨result, passed, after⟩
    · rw [failed]
      exact before
    · rw [Moment.text?, passed]
      exact after

theorem current_filesAfter {script : List Batch} (writable : Writable config.outputPath name)
    (current : Current surroundings config files directory name text succeeded)
    (unlinked : ∀ batch ∈ script, ∀ path target, Edit.link path target ∉ batch.edits)
    (untouched : ∀ moment ∈ moments surroundings config script files,
      moment.Untouched surroundings config directory name)
    (reported : ∀ moment ∈ moments surroundings config script files,
      moment.Reported surroundings config) (handled : Nat)
    (goes : ∀ moment ∈ (moments surroundings config script files).take handled,
      moment.batch.interrupt = false ∧ moment.cut = false) :
    let course := (moments surroundings config script files).take handled
    Current surroundings config (filesAfter files course) directory name (latestText text course)
      (lastSucceeds succeeded course) := by
  induction script generalizing files text succeeded handled with
  | nil =>
    rw [moments, List.take_nil]
    exact current
  | cons batch rest ih =>
    cases handled with
    | zero => exact current
    | succ handled =>
      simp only [moments, List.mem_cons, forall_eq_or_imp] at unlinked untouched reported
      simp only [moments, List.take_succ_cons, List.mem_cons, forall_eq_or_imp,
        batch_momentOf] at goes
      have after :=
        current_left writable current goes.1.1 goes.1.2 unlinked.1 untouched.1 reported.1
      simp only [moments, List.take_succ_cons, filesAfter_cons, latestText_cons,
        lastSucceeds_cons]
      split
      · rw [List.take_nil]
        exact after
      · rename_i onwards
        rw [if_neg onwards] at untouched reported goes
        exact ih after unlinked.2 untouched.2 reported.2 handled goes.2

/-- Without links, and with the output outside the pages directory, a write does not disturb
discovery. -/
theorem steady_of_linkFree {count : Nat} (free : files.LinkFree)
    (outside : ¬ Path.collapse config.pagesPath.names <+: Path.collapse config.outputPath.names)
    (succeeds : (run files surroundings.start config.outputPath text).outcome = .ok count)
    (place : place? files surroundings.start config.outputPath = some (directory, name)) :
    Steady surroundings config files directory name := by
  obtain ⟨writable, _, noDirectory, _, _⟩ := written_of_run succeeds place fun target => free _ target
  obtain ⟨_, reached⟩ := place?_eq_some_iff.1 place
  have adds := addsDirectories_makeDirectories files surroundings.start config.outputPath.parent
  have made := free.addsDirectories adds
  have down := writable.output.down
  have location : Path.collapse config.outputPath.names = directory ++ [name] := by
    have absolute : config.outputPath.parent.IsAbsolute := config.outputPath_isAbsolute
    rw [← parent_child_of_named writable.named, Path.names_child, Path.collapse_append,
      ← made.directoryAt?_eq absolute reached]
    simp [Path.descend, down]
  refine ⟨fun target => free _ target, ?_, fun base way here listed => ?_,
    fun base front here above _ _ => ?_⟩
  · cases there : (files.makeDirectories surroundings.start config.outputPath.parent).tree.directoryAt?
      directory ⟨.relative, [name]⟩ with
    | none => rfl
    | some other =>
      obtain ⟨located, stands⟩ := directoryAt?_eq_some_iff.1 there
      have same := (locate_eq_ok_iff.1 located).2.2.eq_descend made
      simp only [Path.IsAbsolute, ne_eq, not_true_eq_false, if_false, List.foldl_cons,
        List.foldl_nil, Path.descend, if_neg down] at same
      exact absurd (same ▸ stands) noDirectory
  · obtain ⟨_, _, _, _, _, stands, file⟩ := Discovery.mem_ways_iff.1 listed
    obtain ⟨entry, found⟩ := Option.isSome_iff_exists.1 stands
    rw [Discovery.leadsToDirectory_eq_of_linkFree free, found] at file
    rw [Discovery.leadsToDirectory_eq_of_linkFree made, adds.get?_of_some found]
    exact file
  · exfalso
    apply outside
    rw [location, above, ← free.directoryAt?_eq config.pagesPath_isAbsolute here, List.append_assoc]
    exact List.prefix_append _ _

variable (surroundings config)

/-- A watched project without symbolic links whose output is outside the pages directory. If the
batches leave the output alone, make no links, and report what has appeared or disappeared at or
below the pages directory, then after every batch that is not interrupted the files are those that
the edits and the passes so far have left, and the output holds the module of the pages that are
there, unless the last pass has failed. -/
theorem current_of_watch {workspace done : Workspace} {result : PassResult}
    (grounded : Grounded workspace.files)
    (standing : workspace.files.get? surroundings.start = some .directory)
    (free : workspace.files.LinkFree)
    (outside : ¬ Path.collapse config.pagesPath.names <+: Path.collapse config.outputPath.names)
    (begun : first surroundings config workspace = (.ok result, done)) :
    ∃ directory name,
      place? workspace.files surroundings.start config.outputPath = some (directory, name) ∧
      ∀ script : List Batch,
        let course := moments surroundings config script done.files
        (∀ batch ∈ script, ∀ path target, Edit.link path target ∉ batch.edits) →
        (∀ moment ∈ course, moment.Untouched surroundings config directory name) →
        (∀ moment ∈ course, moment.Reported surroundings config) →
        ∀ handled : Nat,
          let files := (watch surroundings config (script.take handled) workspace).2.workspace.files
          (∀ moment ∈ course.take handled,
            moment.batch.interrupt = false ∧ moment.cut = false) →
          files = filesAfter done.files (course.take handled) ∧
          (lastSucceeds true (course.take handled) = true →
            ∃ sources, Discovery.pages files surroundings.start config.pagesPath = .ok sources ∧
              files.content surroundings.start config.outputPath =
                .ok (RoutesModule.render surroundings.workingDirectory sources config).toUTF8) := by
  have passed : (first surroundings config workspace).1 = .ok result := by rw [begun]
  obtain ⟨sources, count, discovered, succeeds, left, module⟩ := steps_of_pass passed
  have ended : (first surroundings config workspace).2 = done := by rw [begun]
  rw [← first, ended] at left
  obtain ⟨directory, name, place⟩ := exists_place?_of_run succeeds
  refine ⟨directory, name, place, fun script => ?_⟩
  intro course unlinked untouched reported handled files goes
  have steady := steady_of_linkFree free outside succeeds place
  obtain ⟨writable, holds⟩ := holds_of_steady grounded standing succeeds place steady
  have pages := pages_of_steady grounded standing succeeds place steady discovered
  obtain ⟨_, _, _, _, shape⟩ := written_of_run succeeds place steady.sibling
  have made := free.addsDirectories
    (addsDirectories_makeDirectories workspace.files surroundings.start config.outputPath.parent)
  have start : Current surroundings config done.files directory name result.text true := by
    refine ⟨left ▸ holds, ?_, fun _ => ⟨sources, left ▸ pages, by rw [module]⟩⟩
    rw [left, shape]
    exact linkFree_written made
  have after := current_filesAfter writable start unlinked untouched reported handled goes
  have known : files = filesAfter done.files (course.take handled) := by
    have watched := files_watch surroundings config (script.take handled) begun
    rwa [take_moments] at watched
  refine ⟨known, fun succeeded => ?_⟩
  rw [known]
  obtain ⟨latest, listed, text⟩ := after.renders succeeded
  exact ⟨latest, listed, text ▸ content_of_holds writable after.holds⟩

/-- The first page is added, which a pass answers. -/
theorem current_of_watch_with_added_page :
    let surroundings : Surroundings := ⟨[], ⟨Number.Real.zero⟩, ⟨none, none, false⟩⟩
    let config : Config :=
      ⟨Path.root, "p", "out/router.tsx", "react-router-dom", by decide, by decide⟩
    let index := Path.ofString "/p/index.tsx"
    let workspace : Workspace :=
      ⟨FileTree.empty.edit [] (.directory (Path.ofString "/p")), 0, none, ""⟩
    let added : Batch :=
      ⟨[.file index ByteArray.empty], [(.added, "/p/index.tsx")], [], false, false, none⟩
    (watch surroundings config [added] workspace).2.workspace.files.content []
        config.outputPath =
      .ok (RoutesModule.render Path.root [index] config).toUTF8 := by
  intro surroundings config index workspace added
  obtain ⟨result, done, begun, same⟩ :=
    exists_first_eq_ok (show (first surroundings config workspace).1.isOk = true by decide +kernel)
  let pages : Location := [⟨"p", by decide, by decide, by decide⟩]
  let out : Location := [⟨"out", by decide, by decide, by decide⟩]
  let router : Name := ⟨"router.tsx", by decide, by decide, by decide⟩
  let page : Name := ⟨"index.tsx", by decide, by decide, by decide⟩
  let edited := done.files.place (pages ++ [page]) (.file ByteArray.empty)
  let attempted := attempt surroundings config edited
  have grounded : Grounded workspace.files := by decide +kernel
  have free : workspace.files.LinkFree := linkFree_empty.edit nofun
  have outside : ¬ Path.collapse config.pagesPath.names <+:
      Path.collapse config.outputPath.names := by decide +kernel
  have place : place? workspace.files [] config.outputPath = some (out, router) := by
    decide +kernel
  have relevant : PageChange.relevant config added.changes ≠ [] := by decide +kernel
  have reached : done.files.directoryAt? [] index.parent = some pages := by
    rw [same]
    decide +kernel
  have located : (done.files.locate [] true index).toOption = some (.free pages page) := by
    rw [same]
    decide +kernel
  have home : edited.directoryAt? [] config.outputPath.parent =
      done.files.directoryAt? [] config.outputPath.parent := by
    simp only [edited, same]
    decide +kernel
  have apart : pages ++ [page] ≠ out ++ [router] ∧ pages ++ [page] ≠ out ++ [hiddenName router] := by
    decide +kernel
  have reported : Moment.Reported surroundings config
      ⟨added, done.files, edited, none, edited, false⟩ := by
    simp only [edited, same]
    decide +kernel
  have succeeded : attempted.1.isOk = true := by
    simp only [attempted, edited, same]
    decide +kernel
  have discovered : (Discovery.pages attempted.2 [] config.pagesPath).toOption =
      some [index] := by
    simp only [attempted, edited, same]
    decide +kernel
  -- From here on the files are a name: nothing may compute with the text of the module.
  clear same
  clear_value pages out router page
  have edits : done.files.edit [] (.file index ByteArray.empty) = edited := by
    rw [FileTree.edit, FileTree.makeDirectories_of_reached reached, FileTree.writeFile,
      eq_ok_of_toOption located]
    rfl
  have course : moments surroundings config [added] done.files =
      [⟨added, done.files, edited, some attempted.1, attempted.2, false⟩] := by
    have folded : added.edits.foldl (fun files edit => files.edit surroundings.start edit)
        done.files = edited := edits
    simp [moments, momentOf, folded, relevant, added, attempted]
  obtain ⟨directory, name, found, runs⟩ :=
    current_of_watch surroundings config grounded (get?_root _) free outside begun
  cases place.symm.trans found
  obtain ⟨left, current⟩ := runs [added] (by simp [added])
    (by
      rw [course]
      simp only [List.mem_singleton, forall_eq]
      exact ⟨home, get?_place_of_ne _ _ apart.1, get?_place_of_ne _ _ apart.2⟩)
    (by
      rw [course]
      simp only [List.mem_singleton, forall_eq]
      exact reported)
    1 (by rw [course]; simp [added])
  simp only [course, List.take_succ_cons, List.take_nil, filesAfter_cons, filesAfter_nil] at left
  obtain ⟨sources, listed, content⟩ := current (by rw [course]; simp [succeeded])
  simp only [List.take_succ_cons, List.take_nil] at listed content
  rw [left, eq_ok_of_toOption discovered] at listed
  cases listed
  exact content

end Generation

end PageRoutes
