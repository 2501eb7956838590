import PageRoutes.Proofs.StagedWrite
import PageRoutes.Proofs.Watch.Moments

/-! The module in the course of a session.

A complete module stays complete: a pass replaces it by a complete one or leaves it alone, and
nothing else touches it. Main statement: after the first pass and after every batch the output
holds the text of the last pass that succeeded, and its hidden sibling is gone. The first pass
is an exception when it takes away a link on the way to its own output; then the path leads
nowhere afterwards. An interrupt in the course of a pass leaves the old module or the new one, and
it may leave the sibling.
-/

set_option autoImplicit false

namespace PageRoutes.Generation

open StagedWrite

variable (surroundings : Surroundings) (config : Config)

/-- A text that is the module of the pages discovered in these files. -/
def Renders (files : FileTree) (text : String) : Prop :=
  ∃ sources, Discovery.pages files surroundings.start config.pagesPath = .ok sources ∧
    text = RoutesModule.render surroundings.workingDirectory sources config

/-- The edits of a batch leave alone where the path of the output leads, the output, and its
hidden sibling. -/
structure Moment.Untouched (moment : Moment) (directory : Location) (name : Name) : Prop where
  reached : moment.edited.directoryAt? surroundings.start config.outputPath.parent =
    moment.found.directoryAt? surroundings.start config.outputPath.parent
  output : moment.edited.get? (directory ++ [name]) = moment.found.get? (directory ++ [name])
  sibling : moment.edited.get? (directory ++ [hiddenName name]) =
    moment.found.get? (directory ++ [hiddenName name])

instance (moment : Moment) (directory : Location) (name : Name) :
    Decidable (moment.Untouched surroundings config directory name) :=
  decidable_of_iff (_ ∧ _ ∧ _)
    ⟨fun kept => ⟨kept.1, kept.2.1, kept.2.2⟩,
      fun kept => ⟨kept.reached, kept.output, kept.sibling⟩⟩

/-- The text that was written last, when the first pass has written a text. -/
def latestText (first : String) (moments : List Moment) : String :=
  (moments.filterMap Moment.text?).getLastD first

@[simp] theorem latestText_nil (first : String) : latestText first [] = first := rfl

@[simp] theorem latestText_cons (first : String) (moment : Moment) (rest : List Moment) :
    latestText first (moment :: rest) = latestText (moment.text?.getD first) rest :=
  getLastD_filterMap_cons _ _ _ _

variable {surroundings config}
variable {files : FileTree} {directory : Location} {name : Name}

theorem attempt_eq_ok {result : PassResult}
    (passed : (attempt surroundings config files).1 = .ok result) :
    Renders surroundings config files result.text ∧
      ∃ count,
        (run files surroundings.start config.outputPath result.text).outcome = .ok count ∧
        (attempt surroundings config files).2 =
          (run files surroundings.start config.outputPath result.text).tree := by
  obtain ⟨sources, count, discovered, wrote, left, shape⟩ := steps_of_pass passed
  exact ⟨⟨sources, discovered, by rw [shape]⟩, count, wrote, left⟩

theorem renders_of_text? {batch : Batch} {text : String}
    (written : (momentOf surroundings config batch files).text? = some text) :
    Renders surroundings config (momentOf surroundings config batch files).edited text := by
  unfold Moment.text? at written
  rcases momentOf_cases surroundings config batch files with
    ⟨_, moment⟩ | ⟨_, _, _, _, moment⟩ | ⟨_, _, _, moment⟩
  · rw [moment] at written
    cases written
  · rw [moment] at written
    cases written
  · rw [moment] at written ⊢
    split at written
    · rename_i result passed
      cases written
      exact (attempt_eq_ok (Option.some.inj passed)).1
    · cases written

/-- A pass over a complete module leaves the files alone, or it leaves its own text. -/
theorem attempt_of_holds {old : ByteArray} (writable : Writable config.outputPath name)
    (holds : Holds files surroundings.start config.outputPath directory name old) :
    (∃ failure, attempt surroundings config files = (.error failure, files)) ∨
      ∃ result, (attempt surroundings config files).1 = .ok result ∧
        Holds (attempt surroundings config files).2 surroundings.start config.outputPath
          directory name result.text.toUTF8 := by
  have course := pass_eq surroundings config true ⟨files, 0, none, ""⟩
  simp only at course
  split at course
  · rename_i failure discovered
    exact .inl ⟨_, Prod.ext course.1 course.2⟩
  · rename_i sources discovered
    obtain ⟨succeeds, after⟩ := run_of_holds
      (RoutesModule.render surroundings.workingDirectory sources config) writable holds
    simp only [succeeds] at course
    refine .inr ⟨_, course.2, ?_⟩
    rw [show (attempt surroundings config files).2 = _ from course.1]
    exact after

theorem holds_edited {batch : Batch} {text : String}
    (holds : Holds files surroundings.start config.outputPath directory name text.toUTF8)
    (untouched : (momentOf surroundings config batch files).Untouched surroundings config
      directory name) :
    Holds (momentOf surroundings config batch files).edited surroundings.start config.outputPath
      directory name text.toUTF8 := by
  obtain ⟨reached, output, sibling⟩ := untouched
  rw [found_momentOf] at reached output sibling
  exact ⟨reached.trans holds.reached, output.trans holds.output, sibling.trans holds.sibling⟩

theorem holds_left {batch : Batch} {text : String}
    (writable : Writable config.outputPath name)
    (holds : Holds files surroundings.start config.outputPath directory name text.toUTF8)
    (untouched : (momentOf surroundings config batch files).Untouched surroundings config
      directory name)
    (whole : (momentOf surroundings config batch files).cut = false) :
    Holds (momentOf surroundings config batch files).left surroundings.start config.outputPath
      directory name ((momentOf surroundings config batch files).text?.getD text).toUTF8 := by
  have edited := holds_edited holds untouched
  rcases momentOf_cases surroundings config batch files with
    ⟨_, moment⟩ | ⟨_, _, _, _, moment⟩ | ⟨_, _, _, moment⟩
  · rw [moment] at edited ⊢
    exact edited
  · rw [moment] at whole
    cases whole
  · rw [moment] at edited ⊢
    rcases attempt_of_holds writable edited with ⟨failure, failed⟩ | ⟨result, passed, after⟩
    · rw [failed]
      exact edited
    · rw [Moment.text?, passed]
      exact after

theorem mem_filesDuring {changes : List PageChange} {during : FileTree}
    (member : during ∈ filesDuring surroundings config changes files) :
    during = files ∨ during ∈ writing surroundings config files ∨
      during = (attempt surroundings config files).2 := by
  simp only [filesDuring, List.cons_append, List.mem_cons, List.mem_append, List.mem_replicate,
    List.not_mem_nil, or_false] at member
  tauto

theorem getD_mem_filesDuring (changes : List PageChange) (steps : Nat) :
    (filesDuring surroundings config changes files).getD steps
        (attempt surroundings config files).2 ∈ filesDuring surroundings config changes files := by
  rw [List.getD_eq_getElem?_getD]
  cases found : (filesDuring surroundings config changes files)[steps]? with
  | none => simp [filesDuring]
  | some during => exact List.mem_of_getElem? found

/-- While a pass works on a complete module, the output is the old module or the new one. -/
theorem content_of_mem_filesDuring {changes : List PageChange} {during : FileTree} {text : String}
    (writable : Writable config.outputPath name)
    (holds : Holds files surroundings.start config.outputPath directory name text.toUTF8)
    (member : during ∈ filesDuring surroundings config changes files) :
    ∃ latest, (latest = text ∨ Renders surroundings config files latest) ∧
      during.content surroundings.start config.outputPath = .ok latest.toUTF8 := by
  rcases mem_filesDuring member with rfl | written | rfl
  · exact ⟨text, .inl rfl, content_of_holds writable holds⟩
  · unfold writing at written
    split at written
    · cases written
    · rename_i sources discovered
      rcases content_of_passed _ writable holds written with old | new
      · exact ⟨text, .inl rfl, old⟩
      · exact ⟨_, .inr ⟨sources, discovered, rfl⟩, new⟩
  · rcases attempt_of_holds writable holds with ⟨failure, failed⟩ | ⟨result, passed, after⟩
    · rw [failed]
      exact ⟨text, .inl rfl, content_of_holds writable holds⟩
    · exact ⟨result.text, .inr (attempt_eq_ok passed).1, content_of_holds writable after⟩

theorem content_of_cut {batch : Batch} {text : String}
    (writable : Writable config.outputPath name)
    (holds : Holds files surroundings.start config.outputPath directory name text.toUTF8)
    (untouched : (momentOf surroundings config batch files).Untouched surroundings config
      directory name)
    (cut : (momentOf surroundings config batch files).cut = true) :
    let moment := momentOf surroundings config batch files
    moment.text? = none ∧ ∃ latest,
      (latest = text ∨ Renders surroundings config moment.edited latest) ∧
        moment.left.content surroundings.start config.outputPath = .ok latest.toUTF8 := by
  have edited := holds_edited holds untouched
  rcases momentOf_cases surroundings config batch files with
    ⟨_, moment⟩ | ⟨_, _, steps, _, moment⟩ | ⟨_, _, _, moment⟩
  · rw [moment] at cut
    cases cut
  · rw [moment] at edited ⊢
    exact ⟨rfl, content_of_mem_filesDuring writable edited (getD_mem_filesDuring _ steps)⟩
  · rw [moment] at cut
    cases cut

/-- After any number of batches the module holds the text that was written last, as long as none of
them is interrupted in the course of its handling. -/
theorem holds_filesAfter {script : List Batch} {text : String}
    (writable : Writable config.outputPath name)
    (holds : Holds files surroundings.start config.outputPath directory name text.toUTF8)
    (untouched : ∀ moment ∈ moments surroundings config script files,
      moment.Untouched surroundings config directory name) (handled : Nat)
    (whole : ∀ moment ∈ (moments surroundings config script files).take handled,
      moment.cut = false) :
    let course := (moments surroundings config script files).take handled
    Holds (filesAfter files course) surroundings.start config.outputPath directory name
      (latestText text course).toUTF8 := by
  -- The batch in front leaves the module whole, and the rest starts from what it has left.
  induction script generalizing files text handled with
  | nil =>
    rw [moments, List.take_nil]
    exact holds
  | cons batch rest ih =>
    cases handled with
    | zero => exact holds
    | succ handled =>
      simp only [moments, List.mem_cons, forall_eq_or_imp] at untouched
      simp only [moments, List.take_succ_cons, List.mem_cons, forall_eq_or_imp] at whole
      have after := holds_left writable holds untouched.1 whole.1
      simp only [moments, List.take_succ_cons, filesAfter_cons, latestText_cons]
      split
      · rw [List.take_nil]
        exact after
      · rename_i onwards
        rw [if_neg onwards] at untouched whole
        exact ih after untouched.2 handled whole.2

theorem whole_of_onwards {moment : Moment} (onwards : ¬ moment.endsSession = true) :
    moment.cut = false := by
  simp only [Moment.endsSession, Bool.or_eq_true, not_or, Bool.not_eq_true] at onwards
  exact onwards.1.2

theorem content_filesAfter_of_cut {script : List Batch} {text : String}
    (writable : Writable config.outputPath name)
    (holds : Holds files surroundings.start config.outputPath directory name text.toUTF8)
    (untouched : ∀ moment ∈ moments surroundings config script files,
      moment.Untouched surroundings config directory name) (handled : Nat) {moment : Moment}
    (member : moment ∈ (moments surroundings config script files).take handled)
    (cut : moment.cut = true) :
    let course := (moments surroundings config script files).take handled
    ∃ latest,
      (latest = latestText text course ∨ Renders surroundings config moment.edited latest) ∧
        (filesAfter files course).content surroundings.start config.outputPath =
          .ok latest.toUTF8 := by
  induction script generalizing files text handled with
  | nil => simp [moments] at member
  | cons batch rest ih =>
    cases handled with
    | zero => simp at member
    | succ handled =>
      simp only [moments, List.mem_cons, forall_eq_or_imp] at untouched
      simp only [moments, List.take_succ_cons, List.mem_cons, filesAfter_cons,
        latestText_cons] at member ⊢
      -- A cut ends the session, so the batch in front is cut, or it has gone through and leads on.
      rcases member with rfl | later
      · obtain ⟨silent, latest, either, content⟩ := content_of_cut writable holds untouched.1 cut
        have ends : (momentOf surroundings config batch files).endsSession = true := by
          simp [Moment.endsSession, cut]
        rw [if_pos ends, List.take_nil, silent]
        exact ⟨latest, either, content⟩
      · split at later
        · simp at later
        · rename_i onwards
          rw [if_neg onwards] at untouched ⊢
          have after := holds_left writable holds untouched.1 (whole_of_onwards onwards)
          exact ih after untouched.2 handled later

theorem keeps_of_mem_moments {script : List Batch} {text : String}
    (writable : Writable config.outputPath name)
    (holds : Holds files surroundings.start config.outputPath directory name text.toUTF8)
    (untouched : ∀ moment ∈ moments surroundings config script files,
      moment.Untouched surroundings config directory name) {moment : Moment}
    (member : moment ∈ moments surroundings config script files) :
    (∀ text, moment.text? = some text → Renders surroundings config moment.edited text) ∧
      (moment.text? = none → moment.cut = false →
        moment.left.get? (directory ++ [name]) = moment.found.get? (directory ++ [name])) := by
  induction script generalizing files text with
  | nil => cases member
  | cons batch rest ih =>
    simp only [moments, List.mem_cons, forall_eq_or_imp] at untouched member
    rcases member with rfl | later
    · refine ⟨fun text written => renders_of_text? written, fun none whole => ?_⟩
      have after := holds_left writable holds untouched.1 whole
      rw [after.output, found_momentOf, holds.output, none, Option.getD_none]
    · split at later
      · cases later
      · rename_i onwards
        rw [if_neg onwards] at untouched
        have after := holds_left writable holds untouched.1 (whole_of_onwards onwards)
        exact ih after untouched.2 later

variable (surroundings config)

/-- A first pass that succeeds has written to a directory. If nothing stood under the name of
the sibling there, if the path of the output still leads there, and if no batch touches any of
this, then the output holds the text written last, which is the module of the pages that were
discovered then, and the sibling is gone, after the first pass and after every batch. Where a batch
is interrupted in the course of its handling, the output holds this text or the module of the pages
that this batch has brought. -/
theorem output_of_watch {workspace done : Workspace} {result : PassResult}
    (begun : first surroundings config workspace = (.ok result, done)) :
    ∃ directory name,
      place? workspace.files surroundings.start config.outputPath = some (directory, name) ∧
      ∀ script : List Batch,
        let course := moments surroundings config script done.files
        workspace.files.get? (directory ++ [hiddenName name]) = none →
        done.files.directoryAt? surroundings.start config.outputPath.parent = some directory →
        (∀ moment ∈ course, moment.Untouched surroundings config directory name) →
        Renders surroundings config workspace.files result.text ∧
        (∀ handled : Nat,
          let files := (watch surroundings config (script.take handled) workspace).2.workspace.files
          let past := course.take handled
          files = filesAfter done.files past ∧
          ((∀ moment ∈ past, moment.cut = false) →
            files.content surroundings.start config.outputPath =
                .ok (latestText result.text past).toUTF8 ∧
              files.get? (directory ++ [hiddenName name]) = none) ∧
          ∀ moment ∈ past, moment.cut = true → ∃ text,
            (text = latestText result.text past ∨
              Renders surroundings config moment.edited text) ∧
            files.content surroundings.start config.outputPath = .ok text.toUTF8) ∧
        ∀ moment ∈ course,
          (∀ text, moment.text? = some text → Renders surroundings config moment.edited text) ∧
          (moment.text? = none → moment.cut = false → moment.left.get? (directory ++ [name]) =
            moment.found.get? (directory ++ [name])) := by
  obtain ⟨outcome, left⟩ := first_eq_attempt surroundings config workspace
  rw [begun] at outcome left
  obtain ⟨renders, count, succeeds, written⟩ := attempt_eq_ok outcome.symm
  obtain ⟨directory, name, place⟩ := exists_place?_of_run succeeds
  refine ⟨directory, name, place, fun script => ?_⟩
  intro course free home untouched
  have first : done.files =
      (run workspace.files surroundings.start config.outputPath result.text).tree :=
    left.trans written
  -- From here on the module is whole, and only that is carried from batch to batch.
  obtain ⟨writable, holds⟩ := holds_of_run succeeds place free (by rw [← first]; exact home)
  rw [← first] at holds
  refine ⟨renders, fun handled => ?_, fun moment member => ?_⟩
  · have files := files_watch surroundings config (script.take handled) begun
    rw [take_moments] at files
    simp only
    rw [files]
    refine ⟨rfl, fun whole => ?_, fun moment member cut => ?_⟩
    · have after := holds_filesAfter writable holds untouched handled whole
      exact ⟨content_of_holds writable after, after.sibling⟩
    · exact content_filesAfter_of_cut writable holds untouched handled member cut
  · exact keeps_of_mem_moments writable holds untouched member

variable {surroundings config}

/-- One page is added to a project without pages. -/
theorem output_of_watch_with_added_page :
    let surroundings : Surroundings := ⟨[], ⟨Number.Real.zero⟩, ⟨none, none, false⟩⟩
    let config : Config :=
      ⟨Path.root, "p", "out/router.tsx", "react-router-dom", by decide, by decide⟩
    let workspace : Workspace :=
      ⟨FileTree.empty.edit [] (.directory (Path.ofString "/p")), 0, none, ""⟩
    let index := Path.ofString "/p/index.tsx"
    let added : Batch :=
      ⟨[.file index ByteArray.empty], [(.added, "/p/index.tsx")], [], false, false, none⟩
    (watch surroundings config [added] workspace).2.workspace.files.content []
        config.outputPath =
      .ok (RoutesModule.render Path.root [index] config).toUTF8 := by
  intro surroundings config workspace index added
  obtain ⟨result, done, begun, same⟩ :=
    exists_first_eq_ok (show (first surroundings config workspace).1.isOk = true by decide +kernel)
  let pages : Location := [⟨"p", by decide, by decide, by decide⟩]
  let out : Location := [⟨"out", by decide, by decide, by decide⟩]
  let router : Name := ⟨"router.tsx", by decide, by decide, by decide⟩
  let page : Name := ⟨"index.tsx", by decide, by decide, by decide⟩
  let edited := done.files.place (pages ++ [page]) (.file ByteArray.empty)
  have reached : done.files.directoryAt? [] index.parent = some pages := by
    rw [same]
    decide +kernel
  have located : (done.files.locate [] true index).toOption = some (.free pages page) := by
    rw [same]
    decide +kernel
  have home : done.files.directoryAt? [] config.outputPath.parent = some out ∧
      edited.directoryAt? [] config.outputPath.parent = some out := by
    simp only [edited, same]
    decide +kernel
  have discovered : (Discovery.pages edited [] config.pagesPath).toOption = some [index] := by
    simp only [edited, same]
    decide +kernel
  have passed : (attempt surroundings config edited).1.isOk = true := by
    simp only [edited, same]
    decide +kernel
  -- From here on the files are a name: nothing may compute with the text of the module.
  clear same
  have edits : done.files.edit [] (.file index ByteArray.empty) = edited := by
    rw [FileTree.edit, FileTree.makeDirectories_of_reached reached, FileTree.writeFile,
      eq_ok_of_toOption located]
    rfl
  have course : moments surroundings config [added] done.files = [⟨added, done.files, edited,
      some (attempt surroundings config edited).1, (attempt surroundings config edited).2,
      false⟩] := by
    have relevant : PageChange.relevant config added.changes ≠ [] := by decide +kernel
    have folded : added.edits.foldl (fun files edit => files.edit surroundings.start edit)
        done.files = edited := edits
    simp [moments, momentOf, folded, relevant, added]
  obtain ⟨directory, name, place, runs⟩ := output_of_watch surroundings config begun
  have known : place? workspace.files [] config.outputPath = some (out, router) := by
    decide +kernel
  cases place.symm.trans known
  obtain ⟨_, written, rendered⟩ := runs [added] (by decide +kernel) home.1 (by
    intro moment member
    rw [course] at member
    cases List.mem_singleton.1 member
    exact ⟨home.2.trans home.1.symm, FileTree.get?_place_of_ne _ _ (by decide +kernel),
      FileTree.get?_place_of_ne _ _ (by decide +kernel)⟩)
  rw [course] at written rendered
  cases outcome : (attempt surroundings config edited).1 with
  | error failure =>
    rw [outcome] at passed
    cases passed
  | ok latest =>
    obtain ⟨sources, listed, module⟩ :=
      (rendered _ List.mem_cons_self).1 latest.text (by rw [Moment.text?, outcome])
    rw [eq_ok_of_toOption discovered] at listed
    cases listed
    obtain ⟨content, _⟩ := (written 1).2.1 (by simp)
    simp only [List.take_succ_cons, List.take_nil, latestText_cons, latestText_nil, Moment.text?,
      outcome, Option.getD_some, module] at content
    exact content

/-- The way to the output may lead through a link that the first pass itself takes away, and an
interrupt between the write of the sibling and its move leaves the sibling. -/
theorem output_lost_and_sibling_left :
    (¬ ∀ (surroundings : Surroundings) (config : Config) (workspace done : Workspace)
      (result : PassResult) (directory : Location) (name : Name) (script : List Batch),
      first surroundings config workspace = (.ok result, done) →
      place? workspace.files surroundings.start config.outputPath = some (directory, name) →
      workspace.files.get? (directory ++ [hiddenName name]) = none →
      (∀ moment ∈ moments surroundings config script done.files,
        moment.Untouched surroundings config directory name) →
      (watch surroundings config script workspace).2.workspace.files.content surroundings.start
          config.outputPath =
        .ok (latestText result.text (moments surroundings config script done.files)).toUTF8) ∧
    ¬ ∀ (surroundings : Surroundings) (config : Config) (workspace done : Workspace)
      (result : PassResult) (directory : Location) (name : Name) (script : List Batch),
      first surroundings config workspace = (.ok result, done) →
      place? workspace.files surroundings.start config.outputPath = some (directory, name) →
      workspace.files.get? (directory ++ [hiddenName name]) = none →
      (∀ moment ∈ moments surroundings config script done.files,
        moment.Untouched surroundings config directory name) →
      (watch surroundings config script workspace).2.workspace.files.get?
        (directory ++ [hiddenName name]) = none := by
  let surroundings : Surroundings := ⟨[], ⟨Number.Real.zero⟩, ⟨none, none, false⟩⟩
  constructor
  · intro claimed
    let config : Config :=
      ⟨Path.root, "p", "a/router.tsx/../router.tsx", "react-router-dom", by decide, by decide⟩
    let files := [Edit.directory (Path.ofString "/p"), .directory (Path.ofString "/a/b"),
      .link (Path.ofString "/a/router.tsx") (LinkTarget.ofString "b")].foldl
        (fun files edit => files.edit [] edit) FileTree.empty
    let workspace : Workspace := ⟨files, 0, none, ""⟩
    obtain ⟨result, done, begun, _⟩ := exists_first_eq_ok
      (show (first surroundings config workspace).1.isOk = true by decide +kernel)
    have place : place? workspace.files [] config.outputPath =
        some ([⟨"a", by decide, by decide, by decide⟩],
          ⟨"router.tsx", by decide, by decide, by decide⟩) := by
      decide +kernel
    have kept := claimed surroundings config workspace done result _ _ [] begun place
      (by decide +kernel) (fun moment member => absurd member List.not_mem_nil)
    have lost : ((watch surroundings config [] workspace).2.workspace.files.content []
        config.outputPath).isOk = false := by
      decide +kernel
    rw [kept] at lost
    cases lost
  · intro claimed
    let config : Config :=
      ⟨Path.root, "p", "out/router.tsx", "react-router-dom", by decide, by decide⟩
    let workspace : Workspace :=
      ⟨FileTree.empty.edit [] (.directory (Path.ofString "/p")), 0, none, ""⟩
    let out : Location := [⟨"out", by decide, by decide, by decide⟩]
    let router : Name := ⟨"router.tsx", by decide, by decide, by decide⟩
    let added : Batch := ⟨[.file (Path.ofString "/p/index.tsx") ByteArray.empty],
      [(.added, "/p/index.tsx")], [], false, false, some 4⟩
    obtain ⟨result, done, begun, same⟩ := exists_first_eq_ok
      (show (first surroundings config workspace).1.isOk = true by decide +kernel)
    have place : place? workspace.files [] config.outputPath = some (out, router) := by
      decide +kernel
    have untouched : ∀ moment ∈ moments surroundings config [added] done.files,
        moment.Untouched surroundings config out router := by
      rw [same]
      decide +kernel
    have gone := claimed surroundings config workspace done result _ _ [added] begun place
      (by decide +kernel) untouched
    have left : ((watch surroundings config [added] workspace).2.workspace.files.get?
        (out ++ [hiddenName router])).isSome = true := by
      decide +kernel
    rw [gone] at left
    cases left

end PageRoutes.Generation
