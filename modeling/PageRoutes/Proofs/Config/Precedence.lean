import PageRoutes.Config.Load
import PageRoutes.Proofs.Document.Keyed
import PageRoutes.Proofs.FileTree.Resolved

/-! Which value a setting has, and which mistake is reported.

The entries of a project are settled once and for all: those of the section first, then the known
keys of the top level, then what was given by hand. Main statement: whatever reads the documents, a
project whose document is known has a configuration exactly if all of its entries are settings, its
root can be made absolute, and the package has a name; otherwise the first entry that is no setting
is reported, then the root, then the package.
-/

set_option autoImplicit false

namespace PageRoutes.Config

open Document

/-- A known key with a text. -/
def IsSetting (entry : Value × Value) : Prop :=
  ∃ key ∈ knownKeys, ∃ text, entry = (.text key, .text text)

/-- What is reported about an entry that is no setting. -/
inductive Mistake : Value × Value → LoadFailure → Prop where
  | unknown {key value : Value} : (∀ known ∈ knownKeys, key ≠ .text known) →
      Numeral.unwritable? key = none → Mistake (key, value) (.config (.unknownKey key))
  | unwritable {key value : Value} {fault : Fault} : (∀ known ∈ knownKeys, key ≠ .text known) →
      Numeral.unwritable? key = some fault → Mistake (key, value) (.fault fault)
  | notText {key : String} {value : Value} : key ∈ knownKeys → value.text? = none →
      Mistake (.text key, value) (.config (.notText (.text key) value.kindName))

/-- The entries of a document and some overrides, in the order in which they are looked at. -/
def effective (document overrides : Entries) : Entries :=
  Keyed.settled (sectionEntries document ++
    (document.filter fun entry => isKnownKey entry.1) ++ given overrides)

/-- The value of a key: the override, or what the top level says, or the section. -/
def chosen? (document overrides : Entries) (key : String) : Option Value :=
  (Keyed.latest? (.text key) (given overrides)).or
    ((Keyed.latest? (.text key) document).or (Keyed.latest? (.text key) (sectionEntries document)))

/-- A setting, with the value that it has when nobody chooses one. -/
def setting (document overrides : Entries) (key standard : String) : String :=
  ((chosen? document overrides key).bind Value.text?).getD standard

/-- The entries of a document that may matter. -/
def pertinent (document : Entries) : Entries :=
  document.filter fun entry => isKnownKey entry.1 || entry.1.sameKey (.text sectionKey)

theorem isKnownKey_iff (key : Value) :
    isKnownKey key = true ↔ ∃ known ∈ knownKeys, key = .text known := by
  unfold isKnownKey
  cases key <;> simp [Value.text?]

theorem text?_eq_some_iff (value : Value) (text : String) :
    value.text? = some text ↔ value = .text text := by
  cases value <;> simp [Value.text?]

theorem firstFault?_of_setting {entry : Value × Value} (fine : IsSetting entry) (rest : Entries) :
    firstFault? (entry :: rest) = firstFault? rest := by
  obtain ⟨key, known, text, rfl⟩ := fine
  rw [firstFault?, if_pos ((isKnownKey_iff _).2 ⟨key, known, rfl⟩)]
  rfl

theorem firstFault?_of_foreign {key : Value} (foreign : ∀ known ∈ knownKeys, key ≠ .text known)
    (value : Value) (rest : Entries) :
    firstFault? ((key, value) :: rest) = some (.unknownKey key) := by
  have unknown : ¬ isKnownKey key = true := fun known =>
    let ⟨text, listed, same⟩ := (isKnownKey_iff key).1 known
    foreign text listed same
  rw [firstFault?, if_neg unknown]

theorem firstFault?_of_mistake {entry : Value × Value} {failure : LoadFailure}
    (mistake : Mistake entry failure) (rest : Entries) :
    ∃ error, firstFault? (entry :: rest) = some error ∧ ofEntryError error = failure := by
  cases mistake with
  | unknown foreign writable =>
    exact ⟨_, firstFault?_of_foreign foreign _ rest, by rw [ofEntryError, writable]⟩
  | unwritable foreign unwritable =>
    exact ⟨_, firstFault?_of_foreign foreign _ rest, by rw [ofEntryError, unwritable]⟩
  | @notText key value known nonText =>
    refine ⟨.notText (.text key) value.kindName, ?_, rfl⟩
    rw [firstFault?, if_pos ((isKnownKey_iff _).2 ⟨key, known, rfl⟩), nonText]

theorem isSetting_or_mistake (entry : Value × Value) :
    IsSetting entry ∨ ∃ failure, Mistake entry failure := by
  obtain ⟨key, value⟩ := entry
  by_cases known : ∃ known ∈ knownKeys, key = .text known
  · obtain ⟨known, listed, rfl⟩ := known
    cases written : value.text? with
    | none => exact .inr ⟨_, .notText listed written⟩
    | some text =>
      rw [(text?_eq_some_iff _ _).1 written]
      exact .inl ⟨known, listed, text, rfl⟩
  · have foreign : ∀ known ∈ knownKeys, key ≠ .text known := fun text listed same =>
      known ⟨text, listed, same⟩
    cases writable : Numeral.unwritable? key with
    | none => exact .inr ⟨_, .unknown foreign writable⟩
    | some fault => exact .inr ⟨_, .unwritable foreign writable⟩

theorem firstFault?_append {before : Entries} (fine : ∀ earlier ∈ before, IsSetting earlier)
    (rest : Entries) : firstFault? (before ++ rest) = firstFault? rest := by
  induction before with
  | nil => rfl
  | cons first before ih =>
    obtain ⟨here, behind⟩ := List.forall_mem_cons.1 fine
    rw [List.cons_append, firstFault?_of_setting here, ih behind]

theorem firstFault?_eq_none_iff (entries : Entries) :
    firstFault? entries = none ↔ ∀ entry ∈ entries, IsSetting entry := by
  induction entries with
  | nil => simp [firstFault?]
  | cons entry rest ih =>
    rw [List.forall_mem_cons, ← ih]
    rcases isSetting_or_mistake entry with fine | ⟨failure, mistake⟩
    · rw [firstFault?_of_setting fine, and_iff_right fine]
    · obtain ⟨error, found, _⟩ := firstFault?_of_mistake mistake rest
      have wrong : ¬ IsSetting entry := fun fine => by
        obtain ⟨other, alone, _⟩ := firstFault?_of_mistake mistake []
        rw [firstFault?_of_setting fine] at alone
        cases alone
      simp [found, wrong]

theorem effective_eq (document overrides : Entries) :
    Keyed.merge (flatten document) (given overrides) = effective document overrides := by
  rw [flatten, Keyed.merge_merge, Keyed.merge_merge, Keyed.merge_nil_eq_settled, effective,
    List.append_assoc]

theorem effective_pertinent (document overrides : Entries) :
    effective (pertinent document) overrides = effective document overrides := by
  -- The section and the known keys of the top level are all that is looked at.
  have marked : (pertinent document).get? (.text sectionKey) = document.get? (.text sectionKey) :=
    Keyed.get?_filter _ fun entry _ same => by simp [same]
  have known : (pertinent document).filter (fun entry => isKnownKey entry.1) =
      document.filter fun entry => isKnownKey entry.1 := by
    rw [pertinent, List.filter_filter]
    exact List.filter_congr fun entry _ => by cases isKnownKey entry.1 <;> rfl
  rw [effective, effective, known, sectionEntries, sectionEntries, marked]

theorem field_effective (document overrides : Entries) {key : String} (known : key ∈ knownKeys)
    (standard : String) :
    field (effective document overrides) key standard =
      setting document overrides key standard := by
  -- The filter of the top level keeps every entry of a known key, so the latest one as well.
  have top : Keyed.latest? (.text key) (document.filter fun entry => isKnownKey entry.1) =
      Keyed.latest? (.text key) document := by
    rw [Keyed.latest?, ← List.filter_reverse]
    refine Keyed.get?_filter _ fun entry _ same => ?_
    exact (isKnownKey_iff _).2 ⟨key, known, (Value.sameKey_text _ _).1 same⟩
  rw [field, effective, ← Keyed.merge_nil_eq_settled, Keyed.get?_merge, Keyed.latest?_append,
    Keyed.latest?_append, top]
  simp [setting, chosen?, Keyed.get?]

theorem ofRoot?_eq_none_iff (root : AbsolutePath)
    (pagesDirectory outputFile importSource : String) :
    ofRoot? root pagesDirectory outputFile importSource = none ↔ importSource = "" := by
  simp [ofRoot?]

theorem ofRoot?_eq_some_iff (root : AbsolutePath)
    (pagesDirectory outputFile importSource : String) (config : Config) :
    ofRoot? root pagesDirectory outputFile importSource = some config ↔
      importSource ≠ "" ∧ config.root = root.val ∧ config.pagesDirectory = pagesDirectory ∧
        config.outputFile = outputFile ∧ config.importSource = importSource := by
  obtain ⟨own, pages, output, source, _, _⟩ := config
  unfold ofRoot?
  by_cases named : importSource ≠ "" <;> simp only [named, dite_false] <;> grind

theorem unresolvable_of_absoluteRoot {tree : FileTree} {start : Location} {root : Path}
    {error : FileError} (failed : absoluteRoot tree start root = .error error) :
    FileTree.IsUnresolvable error := by
  unfold absoluteRoot at failed
  split at failed
  · cases failed
  · exact FileTree.unresolvable_of_resolve failed

/-- Without links a root that can be a path is made absolute from its text alone. -/
theorem ofFields?_eq_of_linkFree {tree : FileTree} {start : Location} {root : Path}
    (free : tree.LinkFree) (clean : FileTree.hasNul root = false)
    (startClean : FileTree.hasNul (Path.ofLocation start) = false) :
    ∃ whole, absoluteRoot tree start root = .ok whole ∧
      ∀ pagesDirectory outputFile importSource,
        ofFields? (Path.ofLocation start) root pagesDirectory outputFile importSource
          (Path.ofLocation_isAbsolute start) =
        ofRoot? whole pagesDirectory outputFile importSource := by
  unfold absoluteRoot ofFields?
  split
  · exact ⟨_, rfl, fun _ _ _ => rfl⟩
  · rename_i inside
    have resolves := free.resolve_eq (Decidable.not_not.1 inside) clean startClean
    cases resolved : tree.resolve start root with
    | error error =>
      rw [resolved] at resolves
      cases resolves
    | ok whole =>
      rw [resolved] at resolves
      obtain ⟨whole, absolute⟩ := whole
      cases resolves
      exact ⟨_, rfl, fun _ _ _ => rfl⟩

section Project

variable (readers : Readers) (tree : FileTree) (start : Location) (root : Path)

/-- What the first name for a configuration file answers that is not the name of no file. -/
def Answers (name : String) (format : FileFormat) (answer : Except FileError Bool) : Prop :=
  ∃ before after, fileNames = before ++ (name, format) :: after ∧
    (∀ earlier ∈ before, tree.isFile start (root.join (Path.ofString earlier.1)) = .ok false) ∧
    tree.isFile start (root.join (Path.ofString name)) = answer

/-- The document of a project: what its first configuration file holds, or nothing. -/
inductive Provides : Entries → Prop where
  | nothing : (∀ named ∈ fileNames,
      tree.isFile start (root.join (Path.ofString named.1)) = .ok false) → Provides []
  | file {name text : String} {format : FileFormat} {content : ByteArray} {document : Entries} :
      Answers tree start root name format (.ok true) →
      tree.content start (root.join (Path.ofString name)) = .ok content →
      decode content = .ok text →
      documentEntries readers (root.join (Path.ofString name)) format text = .ok document →
      Provides document

variable {readers tree start root}

theorem firstFile?_append {before : List (String × FileFormat)}
    (others : ∀ earlier ∈ before,
      tree.isFile start (root.join (Path.ofString earlier.1)) = .ok false)
    (rest : List (String × FileFormat)) :
    firstFile? tree start root (before ++ rest) = firstFile? tree start root rest := by
  induction before with
  | nil => rfl
  | cons first before ih =>
    obtain ⟨here, behind⟩ := List.forall_mem_cons.1 others
    rw [List.cons_append, firstFile?]
    simp only [here]
    exact ih behind

theorem fileEntries_of_answers {name : String} {format : FileFormat} {content : ByteArray}
    (answers : Answers tree start root name format (.ok true))
    (holds : tree.content start (root.join (Path.ofString name)) = .ok content) :
    fileEntries readers tree start root = (do
      let text ← decode content
      return flatten (← documentEntries readers (root.join (Path.ofString name)) format text)) := by
  obtain ⟨before, after, listed, others, here⟩ := answers
  have found : firstFile? tree start root fileNames =
      .ok (some (root.join (Path.ofString name), format)) := by
    rw [listed, firstFile?_append others, firstFile?]
    simp only [here]
  simp only [fileEntries, found, holds]

theorem fileEntries_of_provides {document : Entries}
    (provides : Provides readers tree start root document) :
    fileEntries readers tree start root = .ok (flatten document) := by
  cases provides with
  | nothing none =>
    have found := firstFile?_append none []
    rw [List.append_nil] at found
    rw [fileEntries, found]
    rfl
  | file answers holds decoded read =>
    rw [fileEntries_of_answers answers holds, decoded]
    change (documentEntries _ _ _ _ >>= fun document => pure (flatten document)) = _
    rw [read]
    rfl

variable {document overrides : Entries}

theorem load_of_fault (provides : Provides readers tree start root document)
    (unrooted : overrides.get? (.text rootKey) = none) {error : ConfigError}
    (found : firstFault? (effective document overrides) = some error) :
    load tree start root overrides readers = .error (ofEntryError error) := by
  rw [load, if_neg (by simp [unrooted]), fileEntries_of_provides provides]
  simp only [effective_eq, found]

theorem load_of_mistake (provides : Provides readers tree start root document)
    (unrooted : overrides.get? (.text rootKey) = none) {before after : Entries}
    {entry : Value × Value} (first : effective document overrides = before ++ entry :: after)
    (fine : ∀ earlier ∈ before, IsSetting earlier) {failure : LoadFailure}
    (mistake : Mistake entry failure) : load tree start root overrides readers = .error failure := by
  obtain ⟨error, found, rfl⟩ := firstFault?_of_mistake mistake after
  exact load_of_fault provides unrooted (by rw [first, firstFault?_append fine, found])

theorem load_of_settings (provides : Provides readers tree start root document)
    (unrooted : overrides.get? (.text rootKey) = none)
    (fine : ∀ entry ∈ effective document overrides, IsSetting entry) :
    load tree start root overrides readers =
      match absoluteRoot tree start root with
      | .error error => .error (.refused error)
      | .ok whole =>
        match ofRoot? whole (setting document overrides pagesDirectoryKey defaultPagesDirectory)
            (setting document overrides outputFileKey defaultOutputFile)
            (setting document overrides importSourceKey defaultImportSource) with
        | some config => .ok config
        | none => .error (.config .emptyImportSource) := by
  have faultless := (firstFault?_eq_none_iff _).2 fine
  rw [load, if_neg (by simp [unrooted]), fileEntries_of_provides provides]
  simp only [effective_eq, faultless, ofEntries]
  rw [field_effective _ _ (by decide), field_effective _ _ (by decide),
    field_effective _ _ (by decide)]
  cases absoluteRoot tree start root with
  | error error => rfl
  | ok whole =>
    simp only
    cases ofRoot? whole (setting document overrides pagesDirectoryKey defaultPagesDirectory)
      (setting document overrides outputFileKey defaultOutputFile)
      (setting document overrides importSourceKey defaultImportSource) <;> rfl

theorem load_of_unresolved (provides : Provides readers tree start root document)
    (unrooted : overrides.get? (.text rootKey) = none)
    (fine : ∀ entry ∈ effective document overrides, IsSetting entry) {error : FileError}
    (failed : absoluteRoot tree start root = .error error) :
    load tree start root overrides readers = .error (.refused error) := by
  rw [load_of_settings provides unrooted fine, failed]

theorem load_of_unnamed (provides : Provides readers tree start root document)
    (unrooted : overrides.get? (.text rootKey) = none)
    (fine : ∀ entry ∈ effective document overrides, IsSetting entry) {whole : AbsolutePath}
    (rooted : absoluteRoot tree start root = .ok whole)
    (unnamed : setting document overrides importSourceKey defaultImportSource = "") :
    load tree start root overrides readers = .error (.config .emptyImportSource) := by
  rw [load_of_settings provides unrooted fine, rooted]
  simp only [(ofRoot?_eq_none_iff _ _ _ _).2 unnamed]

theorem exists_load_eq_ok (provides : Provides readers tree start root document)
    (unrooted : overrides.get? (.text rootKey) = none)
    (fine : ∀ entry ∈ effective document overrides, IsSetting entry) {whole : AbsolutePath}
    (rooted : absoluteRoot tree start root = .ok whole)
    (named : setting document overrides importSourceKey defaultImportSource ≠ "") :
    ∃ config, load tree start root overrides readers = .ok config := by
  rw [load_of_settings provides unrooted fine, rooted]
  simp only
  split
  · exact ⟨_, rfl⟩
  · rename_i unmade
    exact absurd ((ofRoot?_eq_none_iff _ _ _ _).1 unmade) named

theorem load_eq_ok_iff (provides : Provides readers tree start root document)
    (unrooted : overrides.get? (.text rootKey) = none)
    (fine : ∀ entry ∈ effective document overrides, IsSetting entry) (config : Config) :
    load tree start root overrides readers = .ok config ↔
      absoluteRoot tree start root = .ok ⟨config.root, config.root_absolute⟩ ∧
        setting document overrides importSourceKey defaultImportSource ≠ "" ∧
        config.pagesDirectory = setting document overrides pagesDirectoryKey defaultPagesDirectory ∧
        config.outputFile = setting document overrides outputFileKey defaultOutputFile ∧
        config.importSource = setting document overrides importSourceKey defaultImportSource := by
  rw [load_of_settings provides unrooted fine]
  cases absoluteRoot tree start root with
  | error error => simp
  | ok whole =>
    have fields := ofRoot?_eq_some_iff whole
      (setting document overrides pagesDirectoryKey defaultPagesDirectory)
      (setting document overrides outputFileKey defaultOutputFile)
      (setting document overrides importSourceKey defaultImportSource) config
    have same : (Except.ok whole : Except FileError AbsolutePath) =
        .ok ⟨config.root, config.root_absolute⟩ ↔ config.root = whole.val := by
      rw [Except.ok.injEq, Subtype.ext_iff, eq_comm]
    -- The name of the package is the only field that can be refused.
    rw [same, and_left_comm, ← fields]
    simp only
    split <;> simp_all

theorem settings_of_load (provides : Provides readers tree start root document)
    (unrooted : overrides.get? (.text rootKey) = none) {config : Config}
    (loaded : load tree start root overrides readers = .ok config) :
    ∀ entry ∈ effective document overrides, IsSetting entry := by
  rw [← firstFault?_eq_none_iff]
  cases found : firstFault? (effective document overrides) with
  | none => rfl
  | some error =>
    rw [load_of_fault provides unrooted found] at loaded
    cases loaded

theorem load_congr {others : FileTree} {similar : Entries}
    (provides : Provides readers tree start root document)
    (alike : Provides readers others start root similar)
    (same : pertinent similar = pertinent document)
    (rooted : absoluteRoot others start root = absoluteRoot tree start root) :
    load others start root overrides readers = load tree start root overrides readers := by
  have effects : effective similar overrides = effective document overrides := by
    rw [← effective_pertinent, same, effective_pertinent]
  rw [load, load, fileEntries_of_provides provides, fileEntries_of_provides alike]
  simp only [ofEntries, effective_eq, effects, rooted]

theorem load_of_refused {name : String} {format : FileFormat} {error : FileError}
    (unrooted : overrides.get? (.text rootKey) = none)
    (answers : Answers tree start root name format (.error error)) :
    error = .nameTooLong ∧ load tree start root overrides readers = .error (.refused error) := by
  obtain ⟨before, after, listed, others, here⟩ := answers
  have refused : firstFile? tree start root fileNames = .error error := by
    rw [listed, firstFile?_append others, firstFile?]
    simp only [here]
  constructor
  · unfold FileTree.isFile at here
    cases looked : tree.probe start (root.join (Path.ofString name)) with
    | ok found => simp [looked, Except.map] at here
    | error other =>
      simp only [looked, Except.map, Except.error.injEq] at here
      exact here ▸ (FileTree.probe_eq_error_iff.1 looked).1
  · rw [load, if_neg (by simp [unrooted]), fileEntries, refused]

variable (readers tree start root overrides)

/-- The outcome for a project, its root, and what was given by hand. A name that cannot be looked
up refuses everything. Otherwise there is a document, and nothing else of the files matters but
where they lead the root. -/
theorem load_of_project (unrooted : overrides.get? (.text rootKey) = none) :
    (∀ name format error, Answers tree start root name format (.error error) →
      error = .nameTooLong ∧
        load tree start root overrides readers = .error (.refused error)) ∧
    ∀ document, Provides readers tree start root document →
      let loaded := load tree start root overrides readers
      let entries := effective document overrides
      let value := setting document overrides
      let rooted := absoluteRoot tree start root
      ((∃ config, loaded = .ok config) ↔
        (∀ entry ∈ entries, IsSetting entry) ∧ (∃ whole, rooted = .ok whole) ∧
          value importSourceKey defaultImportSource ≠ "") ∧
      (∀ config, loaded = .ok config →
        rooted = .ok ⟨config.root, config.root_absolute⟩ ∧
          config.pagesDirectory = value pagesDirectoryKey defaultPagesDirectory ∧
          config.outputFile = value outputFileKey defaultOutputFile ∧
          config.importSource = value importSourceKey defaultImportSource) ∧
      (∀ before entry after, entries = before ++ entry :: after →
        (∀ earlier ∈ before, IsSetting earlier) → ¬ IsSetting entry →
        ∃ failure, Mistake entry failure ∧ loaded = .error failure) ∧
      ((∀ entry ∈ entries, IsSetting entry) →
        (∀ error, rooted = .error error →
          FileTree.IsUnresolvable error ∧ loaded = .error (.refused error)) ∧
        (∀ whole, rooted = .ok whole → value importSourceKey defaultImportSource = "" →
          loaded = .error (.config .emptyImportSource))) ∧
      ∀ others similar, Provides readers others start root similar →
        pertinent similar = pertinent document → absoluteRoot others start root = rooted →
        load others start root overrides readers = loaded := by
  refine ⟨fun name format error answers => load_of_refused unrooted answers,
    fun document provides => ?_⟩
  intro loaded entries value rooted
  refine ⟨?_, ?_, ?_, fun fine => ⟨?_, ?_⟩, fun others similar alike same leads =>
    load_congr provides alike same leads⟩
  · constructor
    · rintro ⟨config, found⟩
      have fine := settings_of_load provides unrooted found
      obtain ⟨whole, named, _⟩ := (load_eq_ok_iff provides unrooted fine config).1 found
      exact ⟨fine, ⟨_, whole⟩, named⟩
    · rintro ⟨fine, ⟨whole, leads⟩, named⟩
      exact exists_load_eq_ok provides unrooted fine leads named
  · intro config found
    have fine := settings_of_load provides unrooted found
    obtain ⟨whole, _, fields⟩ := (load_eq_ok_iff provides unrooted fine config).1 found
    exact ⟨whole, fields⟩
  · intro before entry after listed fine wrong
    obtain ⟨failure, mistake⟩ := (isSetting_or_mistake entry).resolve_left wrong
    exact ⟨failure, mistake, load_of_mistake provides unrooted listed fine mistake⟩
  · intro error failed
    exact ⟨unresolvable_of_absoluteRoot failed, load_of_unresolved provides unrooted fine failed⟩
  · intro whole leads unnamed
    exact load_of_unnamed provides unrooted fine leads unnamed

end Project

/-- A project whose root is the directory above the target of a link, and whose section has a number
for a text, which the top level puts right. -/
theorem load_of_project_behind_link :
    let text := "pages_dir = 'a'\nx = 3\n[burrow]\npages_dir = 1\noutput_file = 'o'\n"
    let edits : List Edit := [.directory (Path.ofString "/srv/real"),
      .link (Path.ofString "/w/link") (LinkTarget.ofString "/srv/real"),
      .file (Path.ofString "/srv/burrow.toml") text.toUTF8]
    let tree := edits.foldl (fun tree edit => tree.edit [] edit) FileTree.empty
    let start : Location := (Path.ofString "/w").names
    ∃ config, load tree start (Path.ofString "link/..") [(.text "import_source", .text "r")] =
        .ok config ∧
      config.root = Path.ofString "/srv" ∧ config.pagesDirectory = "a" ∧ config.outputFile = "o" ∧
      config.importSource = "r" := by
  intro text edits tree start
  let root := Path.ofString "link/.."
  let path := root.join (Path.ofString "burrow.toml")
  let overrides : Entries := [(.text "import_source", .text "r")]
  have answers : Answers tree start root "burrow.toml" .toml (.ok true) := by
    have missing : ∀ earlier ∈ [("burrow.yaml", FileFormat.yaml), ("burrow.yml", .yaml)],
        (tree.isFile start (root.join (Path.ofString earlier.1))).toOption = some false := by
      decide +kernel
    exact ⟨_, [], rfl, fun earlier listed => eq_ok_of_toOption (missing earlier listed),
      eq_ok_of_toOption (by decide +kernel)⟩
  have parses : (documentEntries .own path .toml text).toOption.isSome = true := by
    decide +kernel
  obtain ⟨document, read⟩ := Option.isSome_iff_exists.1 parses
  have provides : Provides .own tree start root document :=
    @Provides.file .own tree start root "burrow.toml" text .toml text.toUTF8 document answers
      (eq_ok_of_toOption (by decide +kernel)) (eq_ok_of_toOption (by decide +kernel))
      (eq_ok_of_toOption read)
  have same : document = (documentEntries .own path .toml text).toOption.getD [] := by
    rw [read, Option.getD_some]
  have fine : ∀ entry ∈ effective document overrides, IsSetting entry := by
    have faultless : (firstFault? (effective document overrides)).isNone = true := by
      rw [same]
      decide +kernel
    exact (firstFault?_eq_none_iff _).1 (Option.isNone_iff_eq_none.1 faultless)
  have values : setting document overrides pagesDirectoryKey defaultPagesDirectory = "a" ∧
      setting document overrides outputFileKey defaultOutputFile = "o" ∧
      setting document overrides importSourceKey defaultImportSource = "r" := by
    rw [same]
    decide +kernel
  obtain ⟨pages, output, source⟩ := values
  have rooted : absoluteRoot tree start root = .ok ⟨Path.ofString "/srv", by decide⟩ :=
    eq_ok_of_toOption (by decide +kernel)
  obtain ⟨loads, fields, _⟩ := (load_of_project .own tree start root overrides rfl).2 document
    provides
  obtain ⟨config, loaded⟩ := loads.2 ⟨fine, ⟨_, rooted⟩, by rw [source]; decide⟩
  obtain ⟨leads, pagesDirectory, outputFile, importSource⟩ := fields config loaded
  exact ⟨config, loaded, congrArg Subtype.val (Except.ok.inj (leads.symm.trans rooted)),
    pagesDirectory.trans pages, outputFile.trans output, importSource.trans source⟩

/-- A relative root with a character that no path may hold, and nothing else. -/
theorem no_configuration_at_impossible_root :
    let root : Path := ⟨.relative, [⟨"a\x00b", by decide, by decide, by decide⟩]⟩
    ∀ readers, Provides readers FileTree.empty [] root [] ∧
      (∀ entry ∈ effective [] [], IsSetting entry) ∧
      setting [] [] importSourceKey defaultImportSource ≠ "" ∧
      load FileTree.empty [] root [] readers = .error (.refused .nulCharacter) := by
  intro root readers
  have missing : ∀ named ∈ fileNames,
      (FileTree.empty.isFile [] (root.join (Path.ofString named.1))).toOption = some false := by
    decide +kernel
  have nothing : Provides readers FileTree.empty [] root [] := .nothing fun named listed =>
    eq_ok_of_toOption (missing named listed)
  have fine : ∀ entry ∈ effective [] [], IsSetting entry := fun entry member => nomatch member
  have failed : absoluteRoot FileTree.empty [] root = .error .nulCharacter := by rfl
  exact ⟨nothing, fine, by decide, load_of_unresolved nothing rfl fine failed⟩

end PageRoutes.Config
