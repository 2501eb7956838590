import PageRoutes.Proofs.StagedWrite.Course

/-! A staged write happens as a whole or not at all.

Until the last step all that stood before stands as it was; there are only directories on the way
and the sibling besides. Main statement: a write that ends well leaves the whole text under the
name of the file and nothing else changed, and one that fails leaves nothing but directories on
the way. Behind double dots a directory that is made on the way can itself come to stand where the
sibling would.
-/

set_option autoImplicit false

namespace PageRoutes.StagedWrite

open FileTree

/-- A tree before the last step: all that stood before, directories on the way to the file, and
perhaps the sibling with the text. -/
structure Preparing (tree : FileTree) (start : Location) (path : Path) (content : ByteArray)
    (passed : FileTree) : Prop where
  kept : ∀ {location entry}, tree.get? location = some entry →
    passed.get? location = some entry
  added : ∀ {location entry}, tree.get? location = none → passed.get? location = some entry →
    entry = .directory ∧ passed.OnTheWay start path.parent location ∨
      entry = .file content ∧ ∃ directory name,
        place? tree start path = some (directory, name) ∧
          location = directory ++ [hiddenName name]

variable {tree passed : FileTree} {start directory : Location} {path : Path} {name : Name}
  {content : ByteArray}

theorem preparing_of_makesWay (way : MakesWay start path.parent tree passed) :
    Preparing tree start path content passed :=
  ⟨way.kept, fun none stands => .inl (way.added none stands)⟩

theorem preparing_makeDirectories {passed : FileTree}
    (member : passed ∈ (tree.makeDirectories start path.parent).passed) :
    Preparing tree start path content passed :=
  preparing_of_makesWay (makesWay_makeDirectories (.inr member))

theorem preparing_place (place : place? tree start path = some (directory, name))
    (free : tree.get? (directory ++ [hiddenName name]) = none)
    (plain : (tree.makeDirectories start path.parent).tree.IsPlain
      (directory ++ [hiddenName name])) :
    Preparing tree start path content
      ((tree.makeDirectories start path.parent).tree.place (directory ++ [hiddenName name])
        (.file content)) := by
  have way : MakesWay start path.parent tree _ := makesWay_makeDirectories (.inl rfl)
  constructor
  · intro location entry stands
    rw [get?_place_of_ne]
    · exact way.kept stands
    · rintro rfl
      rw [free] at stands
      cases stands
  · intro location entry none stands
    by_cases beside : directory ++ [hiddenName name] = location
    · subst beside
      rw [get?_place_self _ _ _ (by simp)] at stands
      exact .inr ⟨(Option.some.inj stands).symm, directory, name, place, rfl⟩
    · rw [get?_place_of_ne _ _ beside] at stands
      obtain ⟨made, passed⟩ := way.added none stands
      exact .inl ⟨made, passed.keepsWays (keepsWays_place plain _)⟩

theorem free_of_plain (free : tree.get? (directory ++ [name]) = none)
    (plain : (tree.makeDirectories start path.parent).tree.IsPlain (directory ++ [name])) :
    (tree.makeDirectories start path.parent).tree.get? (directory ++ [name]) = none := by
  have way : MakesWay start path.parent tree _ := makesWay_makeDirectories (.inl rfl)
  rcases plain with none | ⟨old, file⟩
  · exact none
  · cases (way.added free file).1

theorem get?_erase_place {location : Location} (other : Location) (entry : Entry)
    (below : location ≠ []) (free : tree.get? location = none) :
    ((tree.place location entry).erase location).get? other = tree.get? other := by
  by_cases same : location = other
  · rw [← same, get?_erase_self _ _ below, free]
  · rw [get?_erase_of_ne _ same, get?_place_of_ne _ _ same]

theorem no_sibling_of_unprepared {cause : FileError} (grounded : Grounded tree)
    (standing : tree.get? start = some .directory)
    (failed : (tree.makeDirectories start path.parent).outcome = .error cause)
    (name : Name) (followLast : Bool) (goal : Target) :
    (tree.makeDirectories start path.parent).tree.locate start followLast
      (hiddenSibling path name) ≠ .ok goal := by
  intro located
  obtain ⟨directory, reached, _⟩ := directoryAt?_of_locate_child
    (grounded.makeDirectories standing _)
    ((addsDirectories_makeDirectories tree start path.parent).get?_of_some standing) located
  rw [directoryAt?_makeDirectories_of_error grounded standing failed] at reached
  cases reached

theorem location_of_locate_sibling (grounded : Grounded tree)
    (standing : tree.get? start = some .directory)
    (reached : tree.directoryAt? start path.parent = some directory) {location : Location}
    (located : tree.locate start false (hiddenSibling path name) = .ok (.found location)) :
    location = directory ++ [hiddenName name] := by
  obtain ⟨other, led, left, last⟩ := directoryAt?_of_locate_child grounded standing located
  cases led.symm.trans reached
  exact last.last_unfollowed (hiddenName_ne_up name)

/-- What stands under the name of a sibling that could not be written was made on the way. -/
theorem directory_of_unstaged {cause : FileError} {text : String} (grounded : Grounded tree)
    (standing : tree.get? start = some .directory)
    (named : path.lastName? = some name)
    (free : ∀ directory name, place? tree start path = some (directory, name) →
      tree.get? (directory ++ [hiddenName name]) = none)
    (made : (tree.makeDirectories start path.parent).outcome = .ok ())
    (failed : (tree.makeDirectories start path.parent).tree.writeFile start
      (hiddenSibling path name) text.toUTF8 = .error cause) (location : Location)
    (located : (tree.makeDirectories start path.parent).tree.locate start false
      (hiddenSibling path name) = .ok (.found location)) :
    tree.get? location = none ∧
      (tree.makeDirectories start path.parent).tree.get? location = some .directory := by
  obtain ⟨directory, reached⟩ := directoryAt?_makeDirectories made
  obtain rfl := location_of_locate_sibling (grounded.makeDirectories standing _)
    ((addsDirectories_makeDirectories tree start path.parent).get?_of_some standing) reached located
  have none := free directory name (place?_eq_some_iff.2 ⟨named, reached⟩)
  refine ⟨none, ?_⟩
  rcases addsDirectories_makeDirectories tree start path.parent
    (directory ++ [hiddenName name]) with same | ⟨_, stands⟩
  · -- Under a free name the sibling would have been written.
    rw [writeFile_sibling (admits_of_locate (hiddenName_ne_up name) located) reached
      (.inl (same.trans none))] at failed
    cases failed
  · exact stands

theorem staged_of_writeFile {staged : FileTree} (named : path.lastName? = some name)
    (free : ∀ directory name, place? tree start path = some (directory, name) →
      tree.get? (directory ++ [hiddenName name]) = none)
    (made : (tree.makeDirectories start path.parent).outcome = .ok ())
    (wrote : (tree.makeDirectories start path.parent).tree.writeFile start
      (hiddenSibling path name) content = .ok staged) :
    ∃ directory, place? tree start path = some (directory, name) ∧
      tree.get? (directory ++ [hiddenName name]) = none ∧
      (tree.makeDirectories start path.parent).tree.directoryAt? start path.parent =
        some directory ∧
      Admits path.parent (hiddenName name) ∧
      (tree.makeDirectories start path.parent).tree.IsPlain (directory ++ [hiddenName name]) ∧
      staged = (tree.makeDirectories start path.parent).tree.place
        (directory ++ [hiddenName name]) (.file content) := by
  obtain ⟨directory, reached⟩ := directoryAt?_makeDirectories made
  have place : place? tree start path = some (directory, name) :=
    place?_eq_some_iff.2 ⟨named, reached⟩
  have none := free directory name place
  have way : MakesWay start path.parent tree (tree.makeDirectories start path.parent).tree :=
    makesWay_makeDirectories (.inl rfl)
  -- Only directories were made, so a link under the sibling's name would have stood before.
  obtain ⟨admits, plain⟩ := plain_of_writeFile reached (fun target link => by
    cases (way.added none link).1) wrote
  exact ⟨directory, place, none, reached, admits, plain,
    Except.ok.inj (wrote.symm.trans (writeFile_sibling admits reached plain))⟩

theorem fail_unplaced {cause : FileError} {passed : List FileTree}
    (named : path.lastName? = some name)
    (admits : Admits path.parent (hiddenName name))
    (reached : tree.directoryAt? start path.parent = some directory)
    (plain : tree.IsPlain (directory ++ [hiddenName name]))
    (failed : (tree.place (directory ++ [hiddenName name]) (.file content)).replace start
      (hiddenSibling path name) path = .error cause) :
    let staged := tree.place (directory ++ [hiddenName name]) (.file content)
    fail staged start path (hiddenSibling path name) cause passed =
      ⟨.error (.reported ⟨path, cause⟩), staged.erase (directory ++ [hiddenName name]),
        passed ++ [staged.erase (directory ++ [hiddenName name])]⟩ := by
  intro staged
  have stands : staged.get? (directory ++ [hiddenName name]) = some (.file content) :=
    get?_place_self _ _ _ (by simp)
  have located : ∀ followLast, staged.locate start followLast (hiddenSibling path name) =
      .ok (.found (directory ++ [hiddenName name])) := fun followLast =>
    locate_child admits (directoryAt?_keepsWays (keepsWays_place plain _) reached) fun _ =>
      .file admits.down admits.fits stands
  exact fail_of_file (isRefusal_of_replace named (located false) failed) (located true)
    (located false) stands

/-- What a write that ended well has left: the text under the name of the file, no sibling, and
everything else that stood before. The path still leads to the file, unless it did so through a
link that stood in the place of the file itself. -/
structure Replaced (tree : FileTree) (start : Location) (path : Path) (content : ByteArray)
    (after : FileTree) (directory : Location) (name : Name) : Prop where
  place : place? tree start path = some (directory, name)
  output : after.get? (directory ++ [name]) = some (.file content)
  sibling : after.get? (directory ++ [hiddenName name]) = none
  others : ∀ {location entry}, location ≠ directory ++ [name] →
    tree.get? location = some entry → after.get? location = some entry
  home : (∀ target, tree.get? (directory ++ [name]) ≠ some (.link target)) →
    after.directoryAt? start path.parent = some directory
  read : after.directoryAt? start path.parent = some directory →
    after.content start path = .ok content

/-- What a write that failed has left: everything that stood before, and directories on the way
with nothing in them but such directories. -/
structure Abandoned (tree : FileTree) (start : Location) (path : Path) (after : FileTree) :
    Prop where
  way : MakesWay start path.parent tree after
  empty : ∀ {location rest entry}, tree.get? location = none →
    after.get? (location ++ rest) = some entry → entry = .directory
  sibling : ∀ {name location}, path.lastName? = some name →
    after.locate start false (hiddenSibling path name) = .ok (.found location) →
    tree.get? location = none ∧ after.get? location = some .directory

section Atomic

variable {text : String} (grounded : Grounded tree)
  (standing : tree.get? start = some .directory)
  (free : ∀ directory name, place? tree start path = some (directory, name) →
    tree.get? (directory ++ [hiddenName name]) = none)

include free in
theorem replaced_of_run {count : Nat} (succeeds : (run tree start path text).outcome = .ok count) :
    count = text.toUTF8.size ∧ ∃ directory name,
      Replaced tree start path text.toUTF8 (run tree start path text).tree directory name := by
  obtain ⟨directory, name, place⟩ := exists_place?_of_run succeeds
  have none := free directory name place
  obtain ⟨writable, plain, noDirectory, outcome, left⟩ :=
    written_of_run succeeds place (by simp [none])
  obtain ⟨_, reached⟩ := place?_eq_some_iff.1 place
  have way : MakesWay start path.parent tree _ := makesWay_makeDirectories (.inl rfl)
  rw [succeeds] at outcome
  refine ⟨Except.ok.inj outcome, directory, name, place, ?_, ?_, ?_, ?_, fun home => ?_⟩
  · rw [left, get?_written_output]
  · rw [left, get?_written_sibling]
  · intro location entry other stands
    rw [left, get?_written_of_ne _ _ _ _ other.symm]
    · exact way.kept stands
    · rintro rfl
      rw [none] at stands
      cases stands
  · intro unlinked
    rw [left]
    refine directoryAt?_keepsWays (keepsWays_written ?_ plain) reached
    cases output : (tree.makeDirectories start path.parent).tree.get? (directory ++ [name]) with
    | none => exact .inl output
    | some entry =>
      cases entry with
      | file old => exact .inr ⟨old, output⟩
      | directory => exact absurd output noDirectory
      | link target =>
        rcases way.addsDirectories (directory ++ [name]) with same | ⟨_, made⟩
        · exact absurd (same.symm.trans output) (unlinked target)
        · rw [made] at output
          cases output
  · refine content_of_holds writable ⟨home, ?_, ?_⟩
    · rw [left, get?_written_output]
    · rw [left, get?_written_sibling]

include grounded in
theorem abandoned_of_makesWay {after : FileTree} (way : MakesWay start path.parent tree after)
    (sibling : ∀ {name location}, path.lastName? = some name →
      after.locate start false (hiddenSibling path name) = .ok (.found location) →
      tree.get? location = none ∧ after.get? location = some .directory) :
    Abandoned tree start path after :=
  ⟨way, fun none stands => way.directory_of_above grounded none stands, sibling⟩

include grounded in
theorem abandoned_of_unplaced (named : path.lastName? = some name)
    (reached : (tree.makeDirectories start path.parent).tree.directoryAt? start path.parent =
      some directory)
    (none : tree.get? (directory ++ [hiddenName name]) = none)
    (admits : Admits path.parent (hiddenName name))
    (plain : (tree.makeDirectories start path.parent).tree.IsPlain
      (directory ++ [hiddenName name])) :
    let cleared := ((tree.makeDirectories start path.parent).tree.place
      (directory ++ [hiddenName name]) (.file content)).erase (directory ++ [hiddenName name])
    Abandoned tree start path cleared ∧ MakesWay start path.parent tree cleared := by
  intro cleared
  have way : MakesWay start path.parent tree (tree.makeDirectories start path.parent).tree :=
    makesWay_makeDirectories (.inl rfl)
  -- The sibling is a new file, so clearing it away gives back what was there before it.
  have still := free_of_plain none plain
  have same := fun location => get?_erase_place location (.file content) (by simp) still
  have after : MakesWay start path.parent tree cleared := way.of_get?_eq same
  refine ⟨abandoned_of_makesWay grounded after fun {other location} given located => ?_, after⟩
  cases given.symm.trans named
  have home := directoryAt?_keepsWays (keepsWays_of_get?_eq same) reached
  have free : cleared.locate start false (hiddenSibling path name) = _ :=
    locate_child admits home fun _ => .free admits.down admits.fits ((same _).trans still)
  rw [located] at free
  cases free

include grounded standing free in
theorem abandoned_of_run {failure : WriteFailure}
    (failed : (run tree start path text).outcome = .error failure) :
    Abandoned tree start path (run tree start path text).tree ∧
      ∀ passed ∈ (run tree start path text).passed,
        Preparing tree start path text.toUTF8 passed := by
  have course := course_run tree start path text
  have way : MakesWay start path.parent tree (tree.makeDirectories start path.parent).tree :=
    makesWay_makeDirectories (.inl rfl)
  have prepared : ∀ passed ∈ (tree.makeDirectories start path.parent).passed,
      Preparing tree start path text.toUTF8 passed := fun _ member =>
    preparing_makeDirectories member
  generalize run tree start path text = write at course failed
  cases course with
  | unnamed unnamed =>
    refine ⟨abandoned_of_makesWay grounded (.refl _ _ _) fun named => ?_, nofun⟩
    rw [unnamed] at named
    cases named
  | @unprepared name cause named refused =>
    have nowhere := fun location =>
      no_sibling_of_unprepared grounded standing refused name false (.found location)
    obtain ⟨same, passed⟩ := fail_of_no_file path cause
      (tree.makeDirectories start path.parent).passed
      fun location located => absurd located (nowhere location)
    rw [same, passed]
    refine ⟨abandoned_of_makesWay grounded way fun {other _} given located => ?_, prepared⟩
    cases given.symm.trans named
    exact absurd located (nowhere _)
  | @unstaged name cause named made refused =>
    have stands := fun location =>
      directory_of_unstaged grounded standing named free made refused location
    obtain ⟨same, passed⟩ := fail_of_no_file path cause
      (tree.makeDirectories start path.parent).passed
      fun location located => (stands location located).2
    rw [same, passed]
    refine ⟨abandoned_of_makesWay grounded way fun {other _} given located => ?_, prepared⟩
    cases given.symm.trans named
    exact stands _ located
  | @unplaced name cause staged named made wrote refused =>
    obtain ⟨directory, place, none, reached, admits, plain, rfl⟩ :=
      staged_of_writeFile named free made wrote
    rw [fail_unplaced named admits reached plain refused]
    obtain ⟨after, absent⟩ := abandoned_of_unplaced grounded named reached none admits plain
    refine ⟨after, ?_⟩
    simp only [List.mem_append, List.mem_singleton]
    rintro passed ((earlier | rfl) | rfl)
    · exact prepared passed earlier
    · exact preparing_place place none plain
    · exact preparing_of_makesWay absent
  | placed _ _ _ _ => cases failed

/-- Until the last step a write only prepares, and then it is done. -/
theorem preparing_of_run {count : Nat} (free : ∀ directory name,
      place? tree start path = some (directory, name) →
      tree.get? (directory ++ [hiddenName name]) = none)
    (succeeds : (run tree start path text).outcome = .ok count) {passed : FileTree}
    (member : passed ∈ (run tree start path text).passed) :
    Preparing tree start path text.toUTF8 passed ∨ passed = (run tree start path text).tree := by
  have course := course_run tree start path text
  generalize run tree start path text = write at course succeeds member
  cases course with
  | @placed name staged done named made wrote moved =>
    obtain ⟨directory, place, none, _, _, plain, rfl⟩ := staged_of_writeFile named free made wrote
    simp only [List.mem_append, List.mem_singleton] at member
    rcases member with (earlier | rfl) | rfl
    · exact .inl (preparing_makeDirectories earlier)
    · exact .inl (preparing_place place none plain)
    · exact .inr rfl
  | unnamed _ => cases succeeds
  | unprepared _ _ => exact absurd succeeds (outcome_fail _ _ _ _ _ _ _)
  | unstaged _ _ _ => exact absurd succeeds (outcome_fail _ _ _ _ _ _ _)
  | unplaced _ _ _ _ => exact absurd succeeds (outcome_fail _ _ _ _ _ _ _)

/-- Every tree on the way of a write is one before the last step, or the one that is left when all
went well. A write that ends well answers the number of bytes and has replaced the file; one that
fails for whatever cause has left nothing but directories. -/
theorem atomic_run (tree : FileTree) (start : Location) (path : Path) (text : String)
    (grounded : Grounded tree) (standing : tree.get? start = some .directory)
    (free : ∀ directory name, place? tree start path = some (directory, name) →
      tree.get? (directory ++ [hiddenName name]) = none) :
    let write := run tree start path text
    (∀ passed ∈ write.passed, Preparing tree start path text.toUTF8 passed ∨
      write.outcome = .ok text.toUTF8.size ∧ passed = write.tree) ∧
    match write.outcome with
    | .ok count => count = text.toUTF8.size ∧ ∃ directory name,
        Replaced tree start path text.toUTF8 write.tree directory name
    | .error _ => Abandoned tree start path write.tree := by
  intro write
  cases outcome : write.outcome with
  | ok count =>
    have replaced := replaced_of_run free outcome
    refine ⟨fun passed member => ?_, replaced⟩
    exact (preparing_of_run free outcome member).imp_right fun last => ⟨replaced.1 ▸ rfl, last⟩
  | error failure =>
    obtain ⟨abandoned, prepared⟩ := abandoned_of_run grounded standing free outcome
    exact ⟨fun passed member => .inl (prepared passed member), abandoned⟩

end Atomic

/-- A module is replaced through a directory that has to be made first. -/
theorem atomic_run_over_old_module :
    let old : FileTree :=
      FileTree.empty.edit [] (.file (Path.ofString "/a/router.tsx") ByteArray.empty)
    let path := Path.ofString "/a/new/../router.tsx"
    let write := run old [] path "é"
    Grounded old ∧ write.outcome = .ok 2 ∧ write.tree.content [] path = .ok "é".toUTF8 := by
  intro old path write
  let directory : Location := [⟨"a", by decide, by decide, by decide⟩]
  let name : Name := ⟨"router.tsx", by decide, by decide, by decide⟩
  have grounded : Grounded old := by decide +kernel
  have outcome : write.outcome = .ok 2 := by decide +kernel
  have place : place? old [] path = some (directory, name) := by decide +kernel
  have free : old.get? (directory ++ [hiddenName name]) = none := by decide +kernel
  have stands : old.get? (directory ++ [name]) = some (.file ByteArray.empty) := by
    decide +kernel
  -- From here on nothing may compute with the tree and the path.
  clear_value old path directory name
  have whole := atomic_run old [] path "é" grounded (get?_root old) (by
    intro other given same
    cases place.symm.trans same
    exact free)
  have ended := whole.2
  simp only [write] at outcome
  rw [outcome] at ended
  obtain ⟨_, other, given, replaced⟩ := ended
  cases place.symm.trans replaced.place
  refine ⟨grounded, outcome, replaced.read (replaced.home fun target link => ?_)⟩
  rw [stands] at link
  cases link

/-- Behind double dots a path may lead nowhere until its directories are made. A directory made on
the way can stand where the sibling would, and stays there when the write fails; it can stand
where the file would; or the path leads to a directory with a sibling in it only then, which is
lost. And a link in the place of the file can be the way to the file itself, which then is lost. -/
theorem exceptions_behind_double_dots :
    let out : Name := ⟨"out", by decide, by decide, by decide⟩
    let wrote (tree : FileTree) (path : String) : Run := run tree [] (Path.ofString path) "x"
    let onto := wrote FileTree.empty "/.out.tmp/../out"
    let into := wrote FileTree.empty "/out/../out"
    let older := FileTree.empty.edit [] (.file (Path.ofString "/.out.tmp") ByteArray.empty)
    let linked := (FileTree.empty.edit [] (.directory (Path.ofString "/b"))).edit []
      (.link (Path.ofString "/out") (LinkTarget.ofString "b"))
    (FileTree.empty.get? [hiddenName out] = none ∧ onto.outcome = .error (.refused .isDirectory) ∧
      onto.tree.isPresent [] (Path.ofString "/.out.tmp/../.out.tmp") = .ok true) ∧
    (FileTree.empty.get? [out] = none ∧ into.outcome.isOk = false ∧
      ∃ passed ∈ into.passed, passed.get? [out] = some .directory) ∧
    (older.isPresent [] (Path.ofString "/new/../.out.tmp") = .ok false ∧
      (wrote older "/new/../out").outcome = .ok 1 ∧
      older.get? [hiddenName out] = some (.file ByteArray.empty) ∧
      (wrote older "/new/../out").tree.get? [hiddenName out] = none) ∧
    linked.isPresent [] (Path.ofString "/out/../.out.tmp") = .ok false ∧
      (wrote linked "/out/../out").outcome = .ok 1 ∧
      (wrote linked "/out/../out").tree.content [] (Path.ofString "/out/../out") =
        .error .notDirectory := by
  decide +kernel

end PageRoutes.StagedWrite
