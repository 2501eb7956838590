import PageRoutes.Proofs.FileTree.Grounded
import PageRoutes.StagedWrite

/-! What a staged write leaves behind.

A write that succeeds puts the whole text under the name of the file and leaves nothing under
the name of the hidden sibling. As long as nobody else touches the two and the path leads to
the same directory, every later write succeeds and leaves the same again.
-/

set_option autoImplicit false

namespace PageRoutes.StagedWrite

open FileTree

/-- The directory that a write goes to, once it is made, and the name of the file there. -/
def place? (tree : FileTree) (start : Location) (path : Path) : Option (Location × Name) :=
  path.lastName?.bind fun name =>
    ((tree.makeDirectories start path.parent).tree.directoryAt? start path.parent).map
      fun directory => (directory, name)

structure Writable (path : Path) (name : Name) : Prop where
  named : path.lastName? = some name
  output : Admits path.parent name
  sibling : Admits path.parent (hiddenName name)

/-- The file at the end of a path is complete, and its hidden sibling is gone. -/
structure Holds (tree : FileTree) (start : Location) (path : Path) (directory : Location)
    (name : Name) (content : ByteArray) : Prop where
  reached : tree.directoryAt? start path.parent = some directory
  output : tree.get? (directory ++ [name]) = some (.file content)
  sibling : tree.get? (directory ++ [hiddenName name]) = none

/-- A tree after the hidden sibling has come and has taken the place of the file. -/
def written (tree : FileTree) (directory : Location) (name : Name) (content : ByteArray) :
    FileTree :=
  ((tree.place (directory ++ [hiddenName name]) (.file content)).erase
    (directory ++ [hiddenName name])).place (directory ++ [name]) (.file content)

theorem hiddenName_ne (name : Name) : hiddenName name ≠ name := by
  intro same
  have lengths := congrArg (fun name : Name => name.text.toList.length) same
  simp [hiddenName] at lengths
  omega

theorem hiddenName_ne_up (name : Name) : hiddenName name ≠ Name.up := by
  intro same
  have lengths := congrArg (fun name : Name => name.text.toList.length) same
  simp [hiddenName, Name.up] at lengths

theorem parent_child_of_named {path : Path} {name : Name} (named : path.lastName? = some name) :
    path.parent.child name = path := by
  obtain ⟨anchor, names⟩ := path
  obtain ⟨front, rfl⟩ := List.getLast?_eq_some_iff.1 named
  simp [Path.parent, Path.child]

section Written

variable (tree : FileTree) (directory : Location) (name : Name) (content : ByteArray)

theorem sibling_ne_output : directory ++ [hiddenName name] ≠ directory ++ [name] := by
  intro same
  exact hiddenName_ne name (by simpa using same)

theorem get?_written_output :
    (written tree directory name content).get? (directory ++ [name]) = some (.file content) :=
  get?_place_self _ _ _ (by simp)

theorem get?_written_sibling :
    (written tree directory name content).get? (directory ++ [hiddenName name]) = none := by
  rw [written, get?_place_of_ne _ _ (sibling_ne_output directory name).symm]
  exact get?_erase_self _ _ (by simp)

theorem get?_written_of_ne {location : Location} (output : directory ++ [name] ≠ location)
    (sibling : directory ++ [hiddenName name] ≠ location) :
    (written tree directory name content).get? location = tree.get? location := by
  rw [written, get?_place_of_ne _ _ output, get?_erase_of_ne _ sibling,
    get?_place_of_ne _ _ sibling]

theorem get?_written_cases (location : Location) :
    (location = directory ++ [name] ∧
      (written tree directory name content).get? location = some (.file content)) ∨
    (location = directory ++ [hiddenName name] ∧
      (written tree directory name content).get? location = none) ∨
    (location ≠ directory ++ [name] ∧
      (written tree directory name content).get? location = tree.get? location) := by
  by_cases there : location = directory ++ [name]
  · exact .inl ⟨there, there ▸ get?_written_output _ _ _ _⟩
  · by_cases beside : location = directory ++ [hiddenName name]
    · exact .inr (.inl ⟨beside, beside ▸ get?_written_sibling _ _ _ _⟩)
    · exact .inr (.inr ⟨there, get?_written_of_ne _ _ _ _ (Ne.symm there) (Ne.symm beside)⟩)

end Written

variable {tree : FileTree} {start directory : Location} {path : Path} {name : Name}
  {content : ByteArray}

theorem keepsWays_written (output : tree.IsPlain (directory ++ [name]))
    (sibling : tree.IsPlain (directory ++ [hiddenName name])) :
    KeepsWays tree (written tree directory name content) := by
  refine keepsWays_of_plain fun location => ?_
  rcases get?_written_cases tree directory name content location with
    ⟨rfl, _⟩ | ⟨rfl, _⟩ | ⟨_, same⟩
  · exact .inl output
  · exact .inl sibling
  · exact .inr same

theorem get?_written_of_directory {location : Location}
    (output : tree.get? (directory ++ [name]) ≠ some .directory)
    (sibling : tree.get? (directory ++ [hiddenName name]) ≠ some .directory)
    (stands : tree.get? location = some .directory) :
    (written tree directory name content).get? location = some .directory := by
  rw [get?_written_of_ne, stands]
  · rintro rfl
    exact output stands
  · rintro rfl
    exact sibling stands

theorem grounded_written (grounded : Grounded tree) (home : tree.get? directory = some .directory)
    (output : tree.get? (directory ++ [name]) ≠ some .directory)
    (sibling : tree.get? (directory ++ [hiddenName name]) ≠ some .directory) :
    Grounded (written tree directory name content) := by
  refine grounded.changed (get?_written_of_directory output sibling) rfl
    fun {place last entry} stands => ?_
  rcases get?_written_cases tree directory name content (place ++ [last]) with
    ⟨there, _⟩ | ⟨_, free⟩ | ⟨_, same⟩
  · obtain ⟨rfl, _⟩ := List.append_inj' there rfl
    exact .inr home
  · rw [free] at stands
    cases stands
  · exact .inl (same.symm.trans stands)

theorem writeFile_sibling (admits : Admits path.parent (hiddenName name))
    (reached : tree.directoryAt? start path.parent = some directory)
    (plain : tree.IsPlain (directory ++ [hiddenName name])) :
    tree.writeFile start (hiddenSibling path name) content =
      .ok (tree.place (directory ++ [hiddenName name]) (.file content)) := by
  have located : ∀ goal, (∀ links, Leads tree true links directory [hiddenName name] goal) →
      tree.locate start true (hiddenSibling path name) = .ok goal :=
    fun goal last => locate_child admits reached last
  rcases plain with none | ⟨old, stands⟩
  · rw [writeFile, located _ fun _ => .free admits.down admits.fits none]
  · rw [writeFile, located _ fun _ => .file admits.down admits.fits stands]
    simp only [stands]

theorem exists_replaceable (writable : Writable path name)
    (reached : tree.directoryAt? start path.parent = some directory)
    (standing : tree.get? (directory ++ [name]) ≠ some .directory) :
    ∃ goal, tree.locate start false path = .ok goal ∧
      tree.replaceable goal = .ok (directory ++ [name]) := by
  have down := writable.output.down
  have fits := writable.output.fits
  have ends : ∀ goal, (∀ links, Leads tree false links directory [name] goal) →
      tree.locate start false path = .ok goal := by
    intro goal last
    rw [← parent_child_of_named writable.named]
    exact locate_child writable.output reached last
  cases stands : tree.get? (directory ++ [name]) with
  | none => exact ⟨_, ends _ fun _ => .free down fits stands, rfl⟩
  | some entry =>
    cases entry with
    | directory => exact absurd stands standing
    | file content =>
      exact ⟨_, ends _ fun _ => .file down fits stands, by rw [replaceable, stands]⟩
    | link target =>
      exact ⟨_, ends _ fun _ => .link down fits stands rfl, by rw [replaceable, stands]⟩

/-- The sibling takes the place of whatever stands under the name, unless it is a directory. -/
theorem replace_sibling {entry : Entry} (writable : Writable path name)
    (reached : tree.directoryAt? start path.parent = some directory)
    (stands : tree.get? (directory ++ [hiddenName name]) = some entry)
    (movable : entry.isDirectory = false)
    (standing : tree.get? (directory ++ [name]) ≠ some .directory) :
    tree.replace start (hiddenSibling path name) path =
      .ok ((tree.erase (directory ++ [hiddenName name])).place (directory ++ [name]) entry) := by
  have down := writable.sibling.down
  have fits := writable.sibling.fits
  have located : tree.locate start false (hiddenSibling path name) =
      .ok (.found (directory ++ [hiddenName name])) := by
    refine locate_child writable.sibling reached fun _ => ?_
    cases entry with
    | directory => cases movable
    | file content => exact .file down fits stands
    | link target => exact .link down fits stands rfl
  obtain ⟨goal, ends, replaced⟩ := exists_replaceable writable reached standing
  have last : ¬ (path.lastName? = some Name.up ∨ path.lastName? = none) := by
    rw [writable.named]
    simpa using writable.output.down
  rw [replace, if_neg last, located, ends]
  simp only [stands, replaced, movable, Bool.false_eq_true, if_false]

/-- A write into a directory that is made succeeds when nothing is in the way. -/
theorem run_of_prepared (text : String) (writable : Writable path name)
    (made : (tree.makeDirectories start path.parent).outcome = .ok ())
    (reached : (tree.makeDirectories start path.parent).tree.directoryAt? start path.parent =
      some directory)
    (plain : (tree.makeDirectories start path.parent).tree.IsPlain
      (directory ++ [hiddenName name]))
    (standing : (tree.makeDirectories start path.parent).tree.get? (directory ++ [name]) ≠
      some .directory) :
    let prepared := tree.makeDirectories start path.parent
    let after := written prepared.tree directory name text.toUTF8
    run tree start path text = ⟨.ok text.toUTF8.size, after, prepared.passed ++
      [prepared.tree.place (directory ++ [hiddenName name]) (.file text.toUTF8), after]⟩ := by
  have staged : (tree.makeDirectories start path.parent).tree.writeFile start
      (hiddenSibling path name) text.toUTF8 = .ok _ :=
    writeFile_sibling writable.sibling reached plain
  have kept := directoryAt?_keepsWays (keepsWays_place plain (.file text.toUTF8)) reached
  have moved := replace_sibling writable kept (get?_place_self _ _ _ (by simp)) rfl
    (by rwa [get?_place_of_ne _ _ (sibling_ne_output directory name)])
  rw [run_eq, writable.named]
  simp only [made, staged, moved, written, List.append_assoc, List.cons_append, List.nil_append]

/-- Where a complete file stands, the next write succeeds and changes nothing else. The sibling
comes first and then takes the place of the file. -/
theorem run_eq_of_holds (text : String) {old : ByteArray} (writable : Writable path name)
    (holds : Holds tree start path directory name old) :
    let after := written tree directory name text.toUTF8
    run tree start path text = ⟨.ok text.toUTF8.size, after,
      [tree.place (directory ++ [hiddenName name]) (.file text.toUTF8), after]⟩ := by
  have nothing := makeDirectories_of_reached holds.reached
  have wrote := run_of_prepared text writable
    (by rw [nothing]) (by rw [nothing]; exact holds.reached)
    (by rw [nothing]; exact .inl holds.sibling) (by rw [nothing]; simp [holds.output])
  rw [nothing] at wrote
  exact wrote

theorem written_of_holds (text : String) {old : ByteArray} (writable : Writable path name)
    (holds : Holds tree start path directory name old) :
    (run tree start path text).outcome = .ok text.toUTF8.size ∧
      (run tree start path text).tree = written tree directory name text.toUTF8 := by
  rw [run_eq_of_holds text writable holds]
  exact ⟨rfl, rfl⟩

theorem run_of_holds (text : String) {old : ByteArray} (writable : Writable path name)
    (holds : Holds tree start path directory name old) :
    (run tree start path text).outcome = .ok text.toUTF8.size ∧
      Holds (run tree start path text).tree start path directory name text.toUTF8 := by
  obtain ⟨succeeds, left⟩ := written_of_holds text writable holds
  refine ⟨succeeds, ?_⟩
  rw [left]
  exact ⟨directoryAt?_keepsWays
      (keepsWays_written (.inr ⟨old, holds.output⟩) (.inl holds.sibling)) holds.reached,
    get?_written_output _ _ _ _, get?_written_sibling _ _ _ _⟩

theorem content_of_reached (writable : Writable path name)
    (reached : tree.directoryAt? start path.parent = some directory)
    (stands : tree.get? (directory ++ [name]) = some (.file content)) :
    tree.content start path = .ok content := by
  have located : tree.locate start true path = .ok (.found (directory ++ [name])) := by
    rw [← parent_child_of_named writable.named]
    exact locate_child writable.output reached fun _ =>
      .file writable.output.down writable.output.fits stands
  rw [FileTree.content, located]
  simp only [stands]

theorem content_of_holds (writable : Writable path name)
    (holds : Holds tree start path directory name content) :
    tree.content start path = .ok content :=
  content_of_reached writable holds.reached holds.output

/-- In the course of a write over a complete file the file is the old one or the new one. -/
theorem content_of_passed (text : String) {old : ByteArray} (writable : Writable path name)
    (holds : Holds tree start path directory name old) {during : FileTree}
    (passed : during ∈ (run tree start path text).passed) :
    during.content start path = .ok old ∨ during.content start path = .ok text.toUTF8 := by
  have after := (run_of_holds text writable holds).2
  rw [run_eq_of_holds text writable holds] at passed after
  rcases List.mem_cons.1 passed with rfl | last
  · have reached := directoryAt?_keepsWays
      (keepsWays_place (.inl holds.sibling) (.file text.toUTF8)) holds.reached
    refine .inl (content_of_reached writable reached ?_)
    rw [get?_place_of_ne _ _ (sibling_ne_output directory name), holds.output]
  · rw [List.mem_singleton.1 last]
    exact .inr (content_of_holds writable after)

theorem outcome_fail (tree : FileTree) (start : Location) (path sibling : Path)
    (cause : FileError) (passed : List FileTree) (count : Nat) :
    (fail tree start path sibling cause passed).outcome ≠ .ok count := by
  rw [fail_eq]
  intro succeeds
  split at succeeds
  · split at succeeds
    · cases succeeds
    · cases succeeds
    · split at succeeds <;> cases succeeds
  · cases succeeds

theorem steps_of_run {text : String} {count : Nat}
    (succeeds : (run tree start path text).outcome = .ok count) :
    ∃ name staged done, path.lastName? = some name ∧
      (tree.makeDirectories start path.parent).outcome = .ok () ∧
      (tree.makeDirectories start path.parent).tree.writeFile start (hiddenSibling path name)
        text.toUTF8 = .ok staged ∧
      staged.replace start (hiddenSibling path name) path = .ok done ∧
      count = text.toUTF8.size := by
  rw [run_eq] at succeeds
  split at succeeds
  · cases succeeds
  · rename_i name named
    simp only at succeeds
    split at succeeds
    · exact absurd succeeds (outcome_fail _ _ _ _ _ _ _)
    · rename_i made
      split at succeeds
      · exact absurd succeeds (outcome_fail _ _ _ _ _ _ _)
      · rename_i staged wrote
        split at succeeds
        · exact absurd succeeds (outcome_fail _ _ _ _ _ _ _)
        · rename_i done moved
          exact ⟨name, staged, done, named, made, wrote, moved, (Except.ok.inj succeeds).symm⟩

theorem exists_place?_of_run {text : String} {count : Nat}
    (succeeds : (run tree start path text).outcome = .ok count) :
    ∃ directory name, place? tree start path = some (directory, name) := by
  obtain ⟨name, _, _, named, made, _, _⟩ := steps_of_run succeeds
  obtain ⟨directory, reached⟩ := directoryAt?_makeDirectories made
  exact ⟨directory, name, by rw [place?, named, Option.bind_some, reached, Option.map_some]⟩

theorem place?_eq_some_iff : place? tree start path = some (directory, name) ↔
    path.lastName? = some name ∧
      (tree.makeDirectories start path.parent).tree.directoryAt? start path.parent =
        some directory := by
  unfold place?
  rw [Option.bind_eq_some_iff]
  constructor
  · rintro ⟨found, named, mapped⟩
    obtain ⟨location, reached, same⟩ := Option.map_eq_some_iff.1 mapped
    cases same
    exact ⟨named, reached⟩
  · rintro ⟨named, reached⟩
    exact ⟨name, named, by rw [reached, Option.map_some]⟩

theorem plain_of_writeFile {staged : FileTree}
    (reached : tree.directoryAt? start path.parent = some directory)
    (unlinked : ∀ target, tree.get? (directory ++ [hiddenName name]) ≠ some (.link target))
    (wrote : tree.writeFile start (hiddenSibling path name) content = .ok staged) :
    Admits path.parent (hiddenName name) ∧ tree.IsPlain (directory ++ [hiddenName name]) := by
  have down := hiddenName_ne_up name
  have admits : Admits path.parent (hiddenName name) := by
    unfold writeFile at wrote
    split at wrote
    · cases wrote
    · rename_i located
      exact admits_of_locate down located
    · rename_i located
      exact admits_of_locate down located
  refine ⟨admits, ?_⟩
  cases stands : tree.get? (directory ++ [hiddenName name]) with
  | none => exact .inl stands
  | some entry =>
    cases entry with
    | file old => exact .inr ⟨old, stands⟩
    | link target => exact absurd stands (unlinked target)
    | directory =>
      have located : tree.locate start true (hiddenSibling path name) =
          .ok (.found (directory ++ [hiddenName name])) :=
        locate_child admits reached fun _ => .down down admits.fits stands .arrived
      rw [writeFile, located] at wrote
      simp only [stands] at wrote
      cases wrote

theorem no_directory_of_replace {source : Path} {done : FileTree}
    (named : path.lastName? = some name)
    (reached : tree.directoryAt? start path.parent = some directory)
    (moved : tree.replace start source path = .ok done) :
    Admits path.parent name ∧ tree.get? (directory ++ [name]) ≠ some .directory := by
  unfold replace at moved
  split at moved
  · cases moved
  · rename_i last
    have down : name ≠ Name.up := fun up => last (.inl (up ▸ named))
    split at moved
    · cases moved
    · cases moved
    · cases moved
    · rename_i origin goal _ located
      have admits : Admits path.parent name := by
        rw [← parent_child_of_named named] at located
        exact admits_of_locate down located
      refine ⟨admits, fun stands => ?_⟩
      have ends : tree.locate start false (path.parent.child name) =
          .ok (.found (directory ++ [name])) :=
        locate_child admits reached fun _ => .down down admits.fits stands .arrived
      rw [parent_child_of_named named, located] at ends
      cases ends
      simp only [replaceable, stands] at moved
      split at moved
      · rename_i none
        cases none
      · cases moved
      · cases moved

/-- A write that succeeds has gone through the sibling, unless a link stood under its name. -/
theorem written_of_run {text : String} {count : Nat}
    (succeeds : (run tree start path text).outcome = .ok count)
    (place : place? tree start path = some (directory, name))
    (unlinked : ∀ target, tree.get? (directory ++ [hiddenName name]) ≠ some (.link target)) :
    let prepared := (tree.makeDirectories start path.parent).tree
    Writable path name ∧ prepared.IsPlain (directory ++ [hiddenName name]) ∧
      prepared.get? (directory ++ [name]) ≠ some .directory ∧
      (run tree start path text).outcome = .ok text.toUTF8.size ∧
      (run tree start path text).tree = written prepared directory name text.toUTF8 := by
  obtain ⟨other, staged, done, given, made, wrote, moved, _⟩ := steps_of_run succeeds
  obtain ⟨named, reached⟩ := place?_eq_some_iff.1 place
  cases given.symm.trans named
  have adds := addsDirectories_makeDirectories tree start path.parent
  obtain ⟨sibling, plain⟩ := plain_of_writeFile reached
    (fun target linked => unlinked target (adds.link_of_link linked)) wrote
  cases wrote.symm.trans (writeFile_sibling sibling reached plain)
  have kept := directoryAt?_keepsWays (keepsWays_place plain (.file text.toUTF8)) reached
  obtain ⟨output, standing⟩ := no_directory_of_replace named kept moved
  rw [get?_place_of_ne _ _ (sibling_ne_output directory name)] at standing
  have writable : Writable path name := ⟨named, output, sibling⟩
  have whole := run_of_prepared text writable made reached plain standing
  refine ⟨writable, plain, standing, ?_, ?_⟩ <;> rw [whole]

/-- A write that succeeds leaves a complete file if nothing stood under the name of the
sibling, and if the path still leads to the directory that the write went to. -/
theorem holds_of_run {text : String} {count : Nat}
    (succeeds : (run tree start path text).outcome = .ok count)
    (place : place? tree start path = some (directory, name))
    (free : tree.get? (directory ++ [hiddenName name]) = none)
    (home : (run tree start path text).tree.directoryAt? start path.parent = some directory) :
    Writable path name ∧
      Holds (run tree start path text).tree start path directory name text.toUTF8 := by
  obtain ⟨writable, _, _, _, left⟩ := written_of_run succeeds place (by simp [free])
  refine ⟨writable, home, ?_, ?_⟩
  · rw [left]
    exact get?_written_output _ _ _ _
  · rw [left]
    exact get?_written_sibling _ _ _ _

end PageRoutes.StagedWrite
