import PageRoutes.CommandLine.Run
import PageRoutes.Proofs.Config.Precedence

/-! When a configuration file fails without a report.

A wrong configuration is reported, and then a run ends with an exit code. There are four ways around
that: the file is no UTF-8 text, its reader gives up on a text that follows the grammar, the message
about an unknown key cannot be written, or the root cannot be made absolute. Main statement: these
are all, whatever the file holds and whatever reads it.
-/

set_option autoImplicit false

namespace PageRoutes

def failure? {ε α : Type} : Except ε α → Option ε
  | .error error => some error
  | .ok _ => none

theorem eq_error_of_failure? {ε α : Type} {outcome : Except ε α} {error : ε}
    (found : failure? outcome = some error) : outcome = .error error := by
  cases outcome with
  | error other =>
    cases found
    rfl
  | ok value => cases found

namespace FileTree

variable {tree : FileTree} {start : Location} {path : Path} {content : ByteArray}

theorem isFile_of_content (holds : tree.content start path = .ok content) :
    tree.isFile start path = .ok true := by
  unfold FileTree.content at holds
  split at holds
  · cases holds
  · cases holds
  · rename_i location located
    split at holds
    · rename_i found stands
      simp [isFile, probe, located, stands, Except.map]
    · cases holds
    · cases holds

end FileTree

namespace Config

open Document

/-- What comes out of a configuration file and is not reported as a wrong configuration. -/
inductive Escapes (readers : Readers) (tree : FileTree) (start : Location) (root : Path)
    (name : String) (overrides : Entries) : FileFormat → ByteArray → LoadFailure → Prop where
  | undecodable {format : FileFormat} {content : ByteArray} : String.fromUTF8? content = none →
      Escapes readers tree start root name overrides format content .undecodable
  | yaml {content : ByteArray} {text : String} {fault : Fault} : decode content = .ok text →
      readers.yaml text = .error fault → (∀ reason, fault ≠ .malformed reason) →
      Escapes readers tree start root name overrides .yaml content (.fault fault)
  | toml {content : ByteArray} {text : String} {fault : Fault} : decode content = .ok text →
      readers.toml text = .error fault → (∀ reason, fault ≠ .malformed reason) →
      Escapes readers tree start root name overrides .toml content (.fault fault)
  | key {format : FileFormat} {content : ByteArray} {text : String} {fault : Fault}
      {document before after : Entries} {entry : Value × Value} : decode content = .ok text →
      documentEntries readers (root.join (Path.ofString name)) format text = .ok document →
      effective document overrides = before ++ entry :: after →
      (∀ earlier ∈ before, IsSetting earlier) → Mistake entry (.fault fault) →
      Escapes readers tree start root name overrides format content (.fault fault)
  | root {format : FileFormat} {content : ByteArray} {text : String} {document : Entries}
      {error : FileError} : decode content = .ok text →
      documentEntries readers (root.join (Path.ofString name)) format text = .ok document →
      (∀ entry ∈ effective document overrides, IsSetting entry) →
      absoluteRoot tree start root = .error error →
      Escapes readers tree start root name overrides format content (.refused error)

variable {readers : Readers} {tree : FileTree} {start : Location} {root path : Path} {name : String}
  {format : FileFormat} {content : ByteArray} {overrides : Entries} {failure : LoadFailure}
  {text : String}

theorem Escapes.ne_config
    (escapes : Escapes readers tree start root name overrides format content failure)
    (error : ConfigError) : failure ≠ .config error := by
  cases escapes <;> exact nofun

theorem decode_eq_error_iff :
    decode content = .error failure ↔
      String.fromUTF8? content = none ∧ failure = .undecodable := by
  unfold decode
  cases String.fromUTF8? content <;> simp [eq_comm]

theorem ofFault_eq {fault : Fault} (wellFormed : ∀ reason, fault ≠ .malformed reason) :
    ofFault path fault = .fault fault := by
  unfold ofFault
  split
  · exact absurd rfl (wellFormed _)
  · rfl

theorem escapes_of_fault {fault : Fault} (path : Path)
    (escapes : (∀ reason, fault ≠ .malformed reason) →
      Escapes readers tree start root name overrides format content (.fault fault)) :
    (∃ error, ofFault path fault = .config error) ∨
      Escapes readers tree start root name overrides format content (ofFault path fault) := by
  cases fault with
  | malformed reason => exact .inl ⟨_, rfl⟩
  | _ => exact .inr (escapes fun _ => nofun)

/-- A document that cannot be read is a wrong configuration, or its reader gives up. -/
theorem escapes_of_documentEntries (decoded : decode content = .ok text)
    (failed : documentEntries readers (root.join (Path.ofString name)) format text =
      .error failure) :
    (∃ error, failure = .config error) ∨
      Escapes readers tree start root name overrides format content failure := by
  cases format with
  | toml =>
    unfold documentEntries at failed
    cases read : readers.toml text with
    | ok entries => simp [read, Except.mapError] at failed
    | error fault =>
      simp only [read, Except.mapError, Except.error.injEq] at failed
      subst failed
      exact escapes_of_fault _ (.toml decoded read)
  | yaml =>
    unfold documentEntries at failed
    cases read : readers.yaml text with
    | ok value =>
      simp only [read] at failed
      split at failed
      · cases failed
      · -- A document that is neither a mapping nor empty is reported.
        split at failed <;> cases failed
        exact .inl ⟨_, rfl⟩
    | error fault =>
      simp only [read, Except.error.injEq] at failed
      subst failed
      exact escapes_of_fault _ (.yaml decoded read)

theorem exists_first_mistake {entries : Entries} (wrong : ¬ ∀ entry ∈ entries, IsSetting entry) :
    ∃ before entry after failure, entries = before ++ entry :: after ∧
      (∀ earlier ∈ before, IsSetting earlier) ∧ Mistake entry failure := by
  induction entries with
  | nil => exact absurd (fun _ member => nomatch member) wrong
  | cons entry rest ih =>
    rcases isSetting_or_mistake entry with fine | ⟨failure, mistake⟩
    · have behind : ¬ ∀ entry ∈ rest, IsSetting entry := fun all =>
        wrong (List.forall_mem_cons.2 ⟨fine, all⟩)
      obtain ⟨before, first, after, failure, rfl, earlier, mistake⟩ := ih behind
      exact ⟨entry :: before, first, after, failure, rfl, List.forall_mem_cons.2 ⟨fine, earlier⟩,
        mistake⟩
    · exact ⟨[], entry, rest, failure, rfl, fun _ member => (nomatch member), mistake⟩

section File

theorem answers_of_first_name
    (holds : tree.content start (root.join (Path.ofString "burrow.yaml")) = .ok content) :
    Answers tree start root "burrow.yaml" .yaml (.ok true) :=
  ⟨[], _, rfl, fun _ member => (nomatch member), FileTree.isFile_of_content holds⟩

theorem load_of_unread (unrooted : overrides.get? (.text rootKey) = none)
    (failed : fileEntries readers tree start root = .error failure) :
    load tree start root overrides readers = .error failure := by
  rw [load, if_neg (by simp [unrooted]), failed]

variable (unrooted : overrides.get? (.text rootKey) = none)
  (answers : Answers tree start root name format (.ok true))
  (holds : tree.content start (root.join (Path.ofString name)) = .ok content)

include unrooted answers holds in
theorem load_of_undecoded (failed : decode content = .error failure) :
    load tree start root overrides readers = .error failure := by
  refine load_of_unread unrooted ?_
  rw [fileEntries_of_answers answers holds, failed]
  rfl

include unrooted answers holds in
theorem load_of_unread_document (decoded : decode content = .ok text)
    (failed : documentEntries readers (root.join (Path.ofString name)) format text =
      .error failure) :
    load tree start root overrides readers = .error failure := by
  refine load_of_unread unrooted ?_
  rw [fileEntries_of_answers answers holds, decoded]
  change (documentEntries _ _ _ _ >>= fun document => pure (flatten document)) = _
  rw [failed]
  rfl

include unrooted answers holds in
theorem load_of_escapes
    (escapes : Escapes readers tree start root name overrides format content failure) :
    load tree start root overrides readers = .error failure := by
  cases escapes with
  | undecodable invalid =>
    exact load_of_undecoded unrooted answers holds (decode_eq_error_iff.2 ⟨invalid, rfl⟩)
  | yaml decoded read wellFormed =>
    refine load_of_unread_document unrooted answers holds decoded ?_
    simp only [documentEntries, read, ofFault_eq wellFormed]
  | toml decoded read wellFormed =>
    refine load_of_unread_document unrooted answers holds decoded ?_
    simp only [documentEntries, read, Except.mapError, ofFault_eq wellFormed]
  | key decoded read first fine mistake =>
    exact load_of_mistake (.file answers holds decoded read) unrooted first fine mistake
  | root decoded read fine failed =>
    exact load_of_unresolved (.file answers holds decoded read) unrooted fine failed

include unrooted answers holds in
theorem escapes_of_load (failed : load tree start root overrides readers = .error failure) :
    (∃ error, failure = .config error) ∨
      Escapes readers tree start root name overrides format content failure := by
  cases decoded : decode content with
  | error other =>
    rw [load_of_undecoded unrooted answers holds decoded] at failed
    cases failed
    obtain ⟨invalid, rfl⟩ := decode_eq_error_iff.1 decoded
    exact .inr (.undecodable invalid)
  | ok text =>
    cases read : documentEntries readers (root.join (Path.ofString name)) format text with
    | error other =>
      rw [load_of_unread_document unrooted answers holds decoded read] at failed
      cases failed
      exact escapes_of_documentEntries decoded read
    | ok document =>
      have provides : Provides readers tree start root document := .file answers holds decoded read
      by_cases fine : ∀ entry ∈ effective document overrides, IsSetting entry
      · rw [load_of_settings provides unrooted fine] at failed
        split at failed
        · rename_i unresolved
          cases failed
          exact .inr (.root decoded read fine unresolved)
        · -- Only the name of the package may still be wrong.
          split at failed <;> cases failed
          exact .inl ⟨_, rfl⟩
      · obtain ⟨before, entry, after, other, first, earlier, mistake⟩ := exists_first_mistake fine
        rw [load_of_mistake provides unrooted first earlier mistake] at failed
        cases failed
        -- A key that cannot be written is met while the message about it is made.
        cases mistake with
        | unknown => exact .inl ⟨_, rfl⟩
        | notText => exact .inl ⟨_, rfl⟩
        | unwritable foreign unwritable =>
          exact .inr (.key decoded read first earlier (.unwritable foreign unwritable))

end File

end Config

namespace CommandLine

variable {surroundings : Surroundings} {script : List Batch} {arguments : List String}
  {workspace : Workspace} {readers : Document.Readers} {request : Request} {error : ConfigError}
  {failure : LoadFailure}

theorem run_of_config_error (asked : Request.ofArguments arguments = .ok request)
    (failed : request.settings.load workspace.files surroundings.start readers =
      .error (.config error)) :
    run surroundings script arguments workspace readers =
      ⟨.ok failedCode, "",
        Session.ofWorkspace (workspace.say ("  Error: " ++ error.message)) false⟩ := by
  simp only [run, asked, Request.perform, failed]
  rfl

theorem run_of_load_failure (asked : Request.ofArguments arguments = .ok request)
    (failed : request.settings.load workspace.files surroundings.start readers = .error failure)
    (unreported : ∀ error, failure ≠ .config error) :
    run surroundings script arguments workspace readers =
      ⟨.error (.load failure), "", Session.ofWorkspace workspace false⟩ := by
  simp only [run, asked, Request.perform, failed, Ended.ofSession]
  cases failure with
  | config error => exact absurd rfl (unreported error)
  | _ => rfl

end CommandLine

namespace Config

open CommandLine

/-- The outcome for a project with a configuration file, whatever its content and its reader: a
configuration, a wrong one, or a failure that escapes. A run of the program reports the wrong ones
only. -/
theorem load_of_file (readers : Document.Readers) {tree : FileTree} {start : Location}
    {root : Path} {name : String} {format : FileFormat} {content : ByteArray}
    {overrides : Document.Entries}
    (unrooted : overrides.get? (.text rootKey) = none)
    (answers : Answers tree start root name format (.ok true))
    (holds : tree.content start (root.join (Path.ofString name)) = .ok content) :
    let loaded := load tree start root overrides readers
    let escaping := Escapes readers tree start root name overrides format content
    ((∃ config, loaded = .ok config) ∨ (∃ error, loaded = .error (.config error)) ∨
      ∃ failure, escaping failure ∧ loaded = .error failure) ∧
    (∀ failure, escaping failure →
      loaded = .error failure ∧ ∀ error, failure ≠ .config error) ∧
    ∀ surroundings script arguments workspace request,
      Request.ofArguments arguments = .ok request → workspace.files = tree →
      surroundings.start = start → request.settings.rootPath = root →
      request.settings.overrides = overrides →
      let ended := run surroundings script arguments workspace readers
      (∀ error, loaded = .error (.config error) →
        ended = ⟨.ok failedCode, "",
          Session.ofWorkspace (workspace.say ("  Error: " ++ error.message)) false⟩) ∧
      ∀ failure, escaping failure →
        ended = ⟨.error (.load failure), "", Session.ofWorkspace workspace false⟩ := by
  intro loaded escaping
  have escaped : ∀ failure, escaping failure → loaded = .error failure := fun _ escapes =>
    load_of_escapes unrooted answers holds escapes
  refine ⟨?_, fun failure escapes => ⟨escaped failure escapes, escapes.ne_config⟩, ?_⟩
  · cases outcome : loaded with
    | ok config => exact .inl ⟨config, rfl⟩
    | error failure =>
      rcases escapes_of_load unrooted answers holds outcome with ⟨error, rfl⟩ | escapes
      · exact .inr (.inl ⟨error, rfl⟩)
      · exact .inr (.inr ⟨failure, escapes, rfl⟩)
  · rintro surroundings script arguments workspace request asked rfl rfl rfl rfl
    exact ⟨fun error failed => run_of_config_error asked failed, fun failure escapes =>
      run_of_load_failure asked (escaped failure escapes) escapes.ne_config⟩

/-- A project whose section is a day that does not exist. -/
theorem load_of_impossible_day :
    let tree := FileTree.empty.edit []
      (.file (Path.ofString "/burrow.yaml") "burrow: 2020-13-45\n".toUTF8)
    let surroundings : Surroundings := ⟨[], ⟨Number.Real.zero⟩, ⟨none, none, false⟩⟩
    let workspace : Workspace := ⟨tree, 0, none, ""⟩
    let settings : Settings := ⟨some "/", none, none, none⟩
    let failure : LoadFailure := .fault (.outOfRange "month must be in 1..12")
    load tree [] Path.root settings.overrides = .error failure ∧
      run surroundings [] ["generate", "/"] workspace =
        ⟨.error (.load failure), "", Session.ofWorkspace workspace false⟩ := by
  intro tree surroundings workspace settings failure
  let path := Path.root.join (Path.ofString "burrow.yaml")
  let content := "burrow: 2020-13-45\n".toUTF8
  have holds : tree.content [] path = .ok content := eq_ok_of_toOption (by decide +kernel)
  have answers := answers_of_first_name holds
  have decoded : decode content = .ok "burrow: 2020-13-45\n" :=
    eq_ok_of_toOption (by decide +kernel)
  have read : Document.Readers.own.yaml "burrow: 2020-13-45\n" =
      .error (.outOfRange "month must be in 1..12") := eq_error_of_failure? (by decide +kernel)
  have unrooted : settings.overrides.get? (.text rootKey) = none := rfl
  have escapes : Escapes .own tree [] Path.root "burrow.yaml" settings.overrides .yaml content
      failure := .yaml decoded read fun _ same => by cases same
  obtain ⟨_, outcome, ends⟩ := load_of_file .own unrooted answers holds
  have runs := ends surroundings [] ["generate", "/"] workspace ⟨.generate, settings⟩ rfl rfl rfl
    (by decide) rfl
  exact ⟨(outcome failure escapes).1, runs.2 failure escapes⟩

/-- A file of one byte that begins no character, whatever would read its text. -/
theorem no_report_of_undecodable_file :
    let tree := FileTree.empty.edit [] (.file (Path.ofString "/burrow.yaml") ⟨#[0xff]⟩)
    let surroundings : Surroundings := ⟨[], ⟨Number.Real.zero⟩, ⟨none, none, false⟩⟩
    let workspace : Workspace := ⟨tree, 0, none, ""⟩
    let settings : Settings := ⟨some "/", none, none, none⟩
    ∀ readers,
      let loaded := load tree [] Path.root settings.overrides readers
      (∀ config, loaded ≠ .ok config) ∧ (∀ error, loaded ≠ .error (.config error)) ∧
        (run surroundings [] ["generate", "/"] workspace readers).outcome ≠ .ok failedCode := by
  intro tree surroundings workspace settings readers loaded
  let path := Path.root.join (Path.ofString "burrow.yaml")
  have holds : tree.content [] path = .ok ⟨#[0xff]⟩ := eq_ok_of_toOption (by decide +kernel)
  have undecodable : loaded = .error .undecodable :=
    load_of_undecoded rfl (answers_of_first_name holds) holds
      (decode_eq_error_iff.2 ⟨by decide +kernel, rfl⟩)
  have rooted : settings.rootPath = Path.root := by decide
  have failed : settings.load tree [] readers = .error .undecodable := by
    rw [Settings.load, rooted]
    exact undecodable
  have asked : Request.ofArguments ["generate", "/"] = .ok ⟨.generate, settings⟩ := by rfl
  have ended : run surroundings [] ["generate", "/"] workspace readers =
      ⟨.error (.load .undecodable), "", Session.ofWorkspace workspace false⟩ :=
    run_of_load_failure asked failed fun _ => nofun
  rw [undecodable, ended]
  exact ⟨fun _ => nofun, fun _ => nofun, nofun⟩

end Config

end PageRoutes
