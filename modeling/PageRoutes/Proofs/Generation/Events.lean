import PageRoutes.Proofs.Discovery
import PageRoutes.Proofs.StagedWrite.Unreported
import PageRoutes.Proofs.Watch.Moments

/-! The event of a pass.

A pass that succeeds or fails with a report adds one event to the log, and a pass that fails in
another way adds none. Main statement: which passes those are is a matter of the two paths and of
the files, and they alone end a session that handles a batch.
-/

set_option autoImplicit false

namespace PageRoutes.Generation

open FileTree StagedWrite

variable (surroundings : Surroundings) (config : Config)

/-- What keeps a pass from succeeding or failing with a report: the path of the pages cannot be
looked up at all, or there are pages but the output cannot be written as it should be. -/
def Uncontrolled (files : FileTree) : Prop :=
  files.locate surroundings.start true config.pagesPath = .error .nameTooLong ∨
    (∃ sources, Discovery.pages files surroundings.start config.pagesPath = .ok sources) ∧
      Unwritable files surroundings.start config.outputPath

/-- What keeps a pass on any system from it: the system does not say whether the pages have a
directory, or there are pages but the output cannot be written as it should be. -/
def UncontrolledOn (system : FileSystem) (files : FileTree) : Prop :=
  (∃ error, system.isDirectory files config.pagesPath = .error error) ∨
    ∃ sources, Discovery.pagesOn system files surroundings.start config.pagesPath = .ok sources ∧
      UnwritableOn system files config.outputPath
        (RoutesModule.render surroundings.workingDirectory sources config)

theorem log_record (workspace : Workspace) (event : Nat → Event) :
    (workspace.record event).log =
      workspace.log.map fun log => log.append (event (workspace.clock + 1)) := by
  unfold Workspace.record
  split <;> simp [*]

@[simp] theorem log_say (workspace : Workspace) (line : String) :
    (workspace.say line).log = workspace.log := rfl

/-- The event that a pass adds to the log, if it has one. -/
def eventOf? (outcome : Except PassFailure PassResult) (time : Nat) : Option Event :=
  match outcome with
  | .ok result => some (.routesGenerated config.pagesPath.toString result.outputPath.toString
      result.fileCount result.byteCount result.duration time)
  | .error failure => failure.report?.map fun (stage, message) =>
      .generationFailed config.pagesPath.toString stage message time

theorem log_abort (failure : PassFailure) (workspace : Workspace) :
    let result := abort config failure workspace
    result.2.log = workspace.log.map fun log =>
      ((eventOf? config result.1 (workspace.clock + 1)).map log.append).getD log := by
  simp only [(abort_eq config failure workspace).1]
  simp only [abort, eventOf?]
  cases failure.report? with
  | none => simp
  | some report => exact log_record _ _

theorem log_passOn (system : FileSystem) (quiet : Bool) (workspace : Workspace) :
    let result := passOn system surroundings config quiet workspace
    result.2.log = workspace.log.map fun log =>
      ((eventOf? config result.1 (workspace.clock + 1)).map log.append).getD log := by
  have log : (if quiet then workspace else workspace.say "  Generating routes...").log =
      workspace.log := by
    split <;> rfl
  have clock : (if quiet then workspace else workspace.say "  Generating routes...").clock =
      workspace.clock := by
    split <;> rfl
  rw [← log, ← clock]
  simp only [passOn]
  split
  · exact log_abort config _ _
  · split
    · exact log_abort config _ _
    · rename_i count _
      simp only [apply_ite Workspace.log, log_say, ite_self]
      exact log_record _ _

theorem log_pass (quiet : Bool) (workspace : Workspace) :
    let result := pass surroundings config quiet workspace
    result.2.log = workspace.log.map fun log =>
      ((eventOf? config result.1 (workspace.clock + 1)).map log.append).getD log :=
  log_passOn surroundings config (.plain surroundings.start) quiet workspace

theorem eventOf?_eq_none_iff {outcome : Except PassFailure PassResult} {time : Nat} :
    eventOf? config outcome time = none ↔ escapes outcome = true := by
  cases outcome with
  | ok result => simp [escapes, eventOf?]
  | error failure => simp [escapes, eventOf?]

theorem pagesOn_eq_refused_iff {system : FileSystem} {files : FileTree} {failure : DiscoveryFailure}
    (failed : Discovery.pagesOn system files surroundings.start config.pagesPath = .error failure) :
    (PassFailure.discovery failure).report? = none ↔
      ∃ error, system.isDirectory files config.pagesPath = .error error := by
  unfold Discovery.pagesOn at failed
  split at failed
  · rename_i error asked
    cases failed
    simp [asked, PassFailure.report?]
  · rename_i asked
    cases failed
    simp [asked, PassFailure.report?]
  · rename_i asked
    split at failed <;> cases failed
    simp [asked, PassFailure.report?]

theorem isDirectory_of_pagesOn {system : FileSystem} {files : FileTree} {sources : List Path}
    (discovered : Discovery.pagesOn system files surroundings.start config.pagesPath = .ok sources) :
    system.isDirectory files config.pagesPath = .ok true := by
  unfold Discovery.pagesOn at discovered
  split at discovered
  · cases discovered
  · cases discovered
  · assumption

/-- A pass escapes exactly where it is out of control. -/
theorem escapes_passOn_iff (system : FileSystem) (quiet : Bool) (workspace : Workspace) :
    escapes (passOn system surroundings config quiet workspace).1 = true ↔
      UncontrolledOn surroundings config system workspace.files := by
  have course := passOn_eq surroundings config system quiet workspace
  simp only at course
  -- If discovery fails, its failure decides, and if it has pages, the write does.
  unfold UncontrolledOn
  split at course
  · rename_i failure discovered
    rw [course.1, discovered, ← pagesOn_eq_refused_iff surroundings config discovered]
    simp [escapes]
  · rename_i sources discovered
    rw [discovered, isDirectory_of_pagesOn surroundings config discovered, or_iff_right (by simp)]
    simp only [Except.ok.injEq, exists_eq_left']
    rw [← unreported_runOn_iff]
    obtain ⟨_, outcome⟩ := course
    split at outcome
    · rename_i failure failed
      rw [outcome, failed]
      cases failure <;> simp [escapes, PassFailure.report?, Unreported]
    · rename_i count succeeds
      rw [outcome, succeeds]
      simp [escapes, Unreported]

/-- On a plain system the paths and the files alone decide, whatever the text. -/
theorem uncontrolledOn_plain_iff {files : FileTree} (grounded : Grounded files)
    (standing : files.get? surroundings.start = some .directory) :
    UncontrolledOn surroundings config (.plain surroundings.start) files ↔
      Uncontrolled surroundings config files := by
  have refused : (∃ error, (FileSystem.plain surroundings.start).isDirectory files
      config.pagesPath = .error error) ↔
      files.locate surroundings.start true config.pagesPath = .error .nameTooLong := by
    change (∃ error, files.isDirectory surroundings.start config.pagesPath = .error error) ↔ _
    simp only [isDirectory_eq_error_iff, probe_eq_error_iff, exists_eq_left]
  have written (text : String) :
      UnwritableOn (.plain surroundings.start) files config.outputPath text ↔
        Unwritable files surroundings.start config.outputPath :=
    unreported_runOn_iff.symm.trans (unreported_run_iff text grounded standing)
  rw [UncontrolledOn, refused, Uncontrolled]
  simp only [written, exists_and_right]
  rfl

/-- On every system a pass under control adds the event of its outcome to the log, and the batch
that it belongs to is handled. A pass out of control adds nothing, and its failure is handed on. On
a plain system it depends on the two paths and on the files which of the two it is. -/
theorem event_of_pass (system : FileSystem) (quiet : Bool) (changes : List PageChange)
    {workspace : Workspace} {log : EventLog} (kept : workspace.log = some log) :
    let result := passOn system surroundings config quiet workspace
    let handled := regenerateOn system surroundings config changes workspace
    (¬ UncontrolledOn surroundings config system workspace.files → ∃ event,
      eventOf? config result.1 (workspace.clock + 1) = some event ∧
        result.2.log = some (log.append event) ∧ handled.1.isOk = true) ∧
    (UncontrolledOn surroundings config system workspace.files →
      escapes result.1 = true ∧ result.2.log = some log ∧ handled.1.isOk = false) ∧
    (Grounded workspace.files → workspace.files.get? surroundings.start = some .directory →
      (UncontrolledOn surroundings config (.plain surroundings.start) workspace.files ↔
        Uncontrolled surroundings config workspace.files)) := by
  intro result handled
  have logged := log_passOn surroundings config system quiet workspace
  have escaped := escapes_passOn_iff surroundings config system quiet workspace
  have fine := (regenerateOn_eq surroundings config system changes workspace).2
  rw [← (passOn_eq_attemptOn surroundings config system quiet workspace).1] at fine
  simp only [kept, Option.map_some] at logged
  refine ⟨fun controlled => ?_, fun uncontrolled => ?_,
    uncontrolledOn_plain_iff surroundings config⟩
  · rw [← escaped, Bool.not_eq_true] at controlled
    cases reported : eventOf? config result.1 (workspace.clock + 1) with
    | none =>
      rw [eventOf?_eq_none_iff] at reported
      rw [controlled] at reported
      cases reported
    | some event =>
      rw [reported] at logged
      exact ⟨event, rfl, logged, by rw [fine, controlled, Bool.not_false]⟩
  · have escapes := escaped.2 uncontrolled
    rw [(eventOf?_eq_none_iff config).2 escapes] at logged
    exact ⟨escapes, logged, by rw [fine, escapes, Bool.not_true]⟩

/-- Without a pages directory a pass fails with a report. -/
theorem event_of_pass_without_pages :
    let surroundings : Surroundings := ⟨[], ⟨Number.Real.zero⟩, ⟨none, none, false⟩⟩
    let config : Config :=
      ⟨Path.root, "p", "out/router.tsx", "react-router-dom", by decide, by decide⟩
    let workspace : Workspace := ⟨FileTree.empty, 0, some EventLog.standard, ""⟩
    (pass surroundings config true workspace).2.log = some (EventLog.standard.append
      (.generationFailed "/p" .discover "Pages directory not found: /p" 1)) := by
  intro surroundings config workspace
  have controlled : ¬ Uncontrolled surroundings config workspace.files := by
    rintro (long | ⟨⟨sources, discovered⟩, _⟩)
    · have short : workspace.files.locate surroundings.start true config.pagesPath ≠
          .error .nameTooLong := by decide +kernel
      exact short long
    · have missing : (Discovery.pages workspace.files surroundings.start config.pagesPath).isOk =
          false := by decide +kernel
      rw [discovered] at missing
      cases missing
  have grounded : FileTree.Grounded workspace.files := by decide +kernel
  have kept : workspace.log = some EventLog.standard := rfl
  obtain ⟨adds, _, plain⟩ :=
    event_of_pass surroundings config (.plain surroundings.start) true [] kept
  obtain ⟨event, reported, logged, _⟩ := adds (mt (plain grounded rfl).1 controlled)
  have known : eventOf? config (pass surroundings config true workspace).1 1 =
      some (.generationFailed "/p" .discover "Pages directory not found: /p" 1) := by
    decide +kernel
  cases known.symm.trans reported
  exact logged

/-- A directory in the place of the sibling stops a session, and the log does not say why. -/
theorem no_event_behind_directory :
    let surroundings : Surroundings := ⟨[], ⟨Number.Real.zero⟩, ⟨none, none, false⟩⟩
    let config : Config := ⟨Path.root, Config.defaultPagesDirectory, Config.defaultOutputFile,
      Config.defaultImportSource, by decide, by decide⟩
    let files := (FileTree.empty.edit [] (.directory (Path.ofString "/src/pages"))).edit []
      (.directory (Path.ofString "/src/.router.tsx.tmp"))
    let workspace : Workspace := ⟨files, 0, some EventLog.standard, ""⟩
    let index := Path.ofString "/src/pages/index.tsx"
    (pass surroundings config true workspace).1.isOk = false ∧
      (pass surroundings config true workspace).2.log.map EventLog.newestFirst = some [] ∧
      (regenerate surroundings config [⟨index, .created⟩] workspace).1.isOk = false ∧
      ((regenerate surroundings config [⟨index, .created⟩] workspace).2.log.map fun log =>
        log.count .generationFailed) = some 0 := by
  decide +kernel

end PageRoutes.Generation
