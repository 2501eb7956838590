import PageRoutes.Proofs.FileTree.Relinked
import PageRoutes.Proofs.StagedWrite

/-! What is read back after a staged write.

The sibling takes the place of the file as it is. If a link stood under its name, the text was
written where that link leads, and the link itself takes the place of the file. Main statement: the
text is read back from the path exactly if what was replaced had not been on the way to the sibling.
-/

set_option autoImplicit false

namespace PageRoutes

namespace FileTree

theorem content_eq_ok_iff {tree : FileTree} {start : Location} {path : Path}
    {content : ByteArray} :
    tree.content start path = .ok content ↔
      ∃ location, tree.locate start true path = .ok (.found location) ∧
        tree.get? location = some (.file content) := by
  unfold FileTree.content
  split
  · rename_i error missed
    simp [missed]
  · rename_i free
    simp [free]
  · rename_i location located
    rw [located]
    split
    · rename_i stands
      simp [stands]
    · rename_i stands
      simp [stands]
    · rename_i other _
      simpa using other content

theorem keepsWays_erased {tree : FileTree} {location : Location} (below : location ≠ []) :
    KeepsWays (tree.erase location) tree :=
  ⟨fun stands => get?_of_erase below stands, fun stands => get?_of_erase below stands⟩

end FileTree

namespace StagedWrite

open FileTree

/-- The path of the sibling leads to the same place without what stands in the place of the file, and
it does not lead there. -/
def Detached (tree : FileTree) (start : Location) (path : Path) (directory : Location)
    (name : Name) : Prop :=
  ∀ goal, tree.locate start true (hiddenSibling path name) = .ok goal →
    (tree.erase (directory ++ [name])).locate start true (hiddenSibling path name) = .ok goal ∧
      goal.location ≠ directory ++ [name]

/-- A tree after a sibling that is a link has taken the place of the file. -/
def linkedOver (tree : FileTree) (directory : Location) (name : Name) (target : LinkTarget)
    (place : Location) (content : ByteArray) : FileTree :=
  ((tree.place place (.file content)).erase (directory ++ [hiddenName name])).place
    (directory ++ [name]) (.link target)

variable {tree : FileTree} {start directory : Location} {path : Path} {name : Name}
  {content other : ByteArray} {goal : Target} {target : LinkTarget}

section Unlinked

variable (reached : tree.directoryAt? start path.parent = some directory)
  (unlinked : ∀ target, tree.get? (directory ++ [hiddenName name]) ≠ some (.link target))

include reached unlinked

theorem detached_of_reached
    (still : (tree.erase (directory ++ [name])).directoryAt? start path.parent = some directory) :
    Detached tree start path directory name := by
  intro goal located
  have admits : Admits path.parent (hiddenName name) :=
    admits_of_locate (hiddenName_ne_up name) located
  have down := admits.down
  have fits := admits.fits
  have same := get?_erase_of_ne tree (sibling_ne_output directory name).symm
  have ends : ∀ aim : Target, aim.location = directory ++ [hiddenName name] →
      (∀ links, Leads tree true links directory [hiddenName name] aim) →
      (∀ links, Leads (tree.erase (directory ++ [name])) true links directory [hiddenName name]
        aim) →
      (tree.erase (directory ++ [name])).locate start true (hiddenSibling path name) = .ok goal ∧
        goal.location ≠ directory ++ [name] := by
    intro aim beside one another
    have found : tree.locate start true (hiddenSibling path name) = .ok aim :=
      locate_child admits reached one
    rw [located] at found
    cases found
    exact ⟨locate_child admits still another, beside ▸ sibling_ne_output directory name⟩
  cases stands : tree.get? (directory ++ [hiddenName name]) with
  | none =>
    exact ends (.free _ _) rfl (fun _ => .free down fits stands)
      fun _ => .free down fits (same.trans stands)
  | some entry =>
    cases entry with
    | directory =>
      exact ends (.found _) rfl (fun _ => .down down fits stands .arrived)
        fun _ => .down down fits (same.trans stands) .arrived
    | file old =>
      exact ends (.found _) rfl (fun _ => .file down fits stands)
        fun _ => .file down fits (same.trans stands)
    | link target => exact absurd stands (unlinked target)

theorem detached_of_unlinked (output : tree.IsPlain (directory ++ [name])) :
    Detached tree start path directory name := by
  refine detached_of_reached reached unlinked (directoryAt?_keepsWays ?_ reached)
  refine keepsWays_of_plain fun location => ?_
  by_cases there : directory ++ [name] = location
  · exact .inl (there ▸ output)
  · exact .inr (get?_erase_of_ne _ there)

end Unlinked

section LinkedOver

variable {place : Location}

theorem get?_linkedOver_of_ne {location : Location} (output : location ≠ directory ++ [name])
    (sibling : location ≠ directory ++ [hiddenName name]) (elsewhere : location ≠ place) :
    (linkedOver tree directory name target place content).get? location = tree.get? location := by
  rw [linkedOver, get?_place_of_ne _ _ output.symm, get?_erase_of_ne _ sibling.symm,
    get?_place_of_ne _ _ elsewhere.symm]

theorem get?_linkedOver_place (below : place ≠ []) (output : place ≠ directory ++ [name])
    (sibling : place ≠ directory ++ [hiddenName name]) :
    (linkedOver tree directory name target place content).get? place = some (.file content) := by
  rw [linkedOver, get?_place_of_ne _ _ output.symm, get?_erase_of_ne _ sibling.symm]
  exact get?_place_self _ _ _ below

structure SiblingLeads (tree : FileTree) (directory : Location) (name : Name) (target : LinkTarget)
    (front : Location) (last : Name) : Prop where
  linked : tree.get? (directory ++ [hiddenName name]) = some (.link target)
  stands : tree.get? front = some .directory
  plain : tree.IsPlain (front ++ [last])
  down : last ≠ Name.up

variable {front : Location} {last : Name} (leads : SiblingLeads tree directory name target front last)

include leads

theorem SiblingLeads.place_ne_sibling : front ++ [last] ≠ directory ++ [hiddenName name] := by
  intro here
  have plain := leads.plain
  rw [here] at plain
  rcases plain with none | ⟨old, file⟩
  · cases leads.linked.symm.trans none
  · cases leads.linked.symm.trans file

/-- The link has come to stand under the name of the file, next to the tree without what stood there,
and the text has come where the link leads. -/
theorem SiblingLeads.relinked (content : ByteArray) :
    Relinked (tree.erase (directory ++ [name]))
      (linkedOver tree directory name target (front ++ [last]) content) directory (hiddenName name)
      name target := by
  have beside := sibling_ne_output directory name
  constructor
  case stood =>
    rw [get?_erase_of_ne _ beside.symm]
    exact leads.linked
  case stands => exact get?_place_self _ _ _ (by simp)
  case free => exact get?_erase_self _ _ (by simp)
  case gone =>
    rw [linkedOver, get?_place_of_ne _ _ beside.symm]
    exact get?_erase_self _ _ (by simp)
  case others =>
    intro here final sibling output
    by_cases there : here ++ [final] = front ++ [last]
    · obtain ⟨rfl, same⟩ := List.append_inj' there rfl
      cases same
      refine .inl ⟨leads.down, ?_, .inr ⟨content, get?_linkedOver_place (by simp) output sibling⟩⟩
      rw [IsPlain, get?_erase_of_ne _ output.symm]
      exact leads.plain
    · right
      rw [get?_linkedOver_of_ne output sibling there, get?_erase_of_ne _ output.symm]

theorem SiblingLeads.grounded_linkedOver (content : ByteArray) (grounded : Grounded tree)
    (noDirectory : tree.get? (directory ++ [name]) ≠ some .directory)
    (home : tree.get? directory = some .directory) :
    Grounded (linkedOver tree directory name target (front ++ [last]) content) := by
  have relinked := leads.relinked content
  refine (grounded.erase noDirectory).changed relinked.directories rfl
    fun {here final entry} found => ?_
  by_cases output : here ++ [final] = directory ++ [name]
  · obtain ⟨rfl, _⟩ := List.append_inj' output rfl
    exact .inr (get?_erase_of_directory noDirectory home)
  · by_cases sibling : here ++ [final] = directory ++ [hiddenName name]
    · rw [sibling, relinked.gone] at found
      cases found
    · by_cases there : here ++ [final] = front ++ [last]
      · obtain ⟨rfl, _⟩ := List.append_inj' there rfl
        exact .inr (get?_erase_of_directory noDirectory leads.stands)
      · rw [get?_linkedOver_of_ne output sibling there] at found
        rw [get?_erase_of_ne _ (Ne.symm output)]
        exact .inl found

end LinkedOver

/-- A tree before the sibling is written, and where it will be written to. -/
structure Ready (tree : FileTree) (start : Location) (path : Path) (directory : Location)
    (name : Name) (goal : Target) : Prop where
  grounded : Grounded tree
  home : tree.get? start = some .directory
  writable : Writable path name
  reached : tree.directoryAt? start path.parent = some directory
  noDirectory : tree.get? (directory ++ [name]) ≠ some .directory
  located : tree.locate start true (hiddenSibling path name) = .ok goal

section Ready

variable (ready : Ready tree start path directory name goal)

include ready

theorem Ready.standing : tree.get? directory = some .directory :=
  (directoryAt?_eq_some_iff.1 ready.reached).2

theorem Ready.grounded_erased : Grounded (tree.erase (directory ++ [name])) :=
  ready.grounded.erase ready.noDirectory

theorem Ready.home_erased : (tree.erase (directory ++ [name])).get? start = some .directory :=
  get?_erase_of_directory ready.noDirectory ready.home

theorem Ready.eq_of_reached_erased {elsewhere : Location}
    (erased : (tree.erase (directory ++ [name])).directoryAt? start path.parent = some elsewhere) :
    elsewhere = directory := by
  have same := directoryAt?_keepsWays (keepsWays_erased (by simp)) erased
  rw [ready.reached] at same
  exact (Option.some.inj same).symm

theorem Ready.reached_erased (detached : Detached tree start path directory name) :
    (tree.erase (directory ++ [name])).directoryAt? start path.parent = some directory := by
  obtain ⟨elsewhere, erased, _⟩ := directoryAt?_of_locate_child ready.grounded_erased
    ready.home_erased (detached goal ready.located).1
  cases ready.eq_of_reached_erased erased
  exact erased

theorem Ready.content_written_iff (plain : tree.IsPlain (directory ++ [hiddenName name])) :
    (written tree directory name content).content start path = .ok content ↔
      Detached tree start path directory name := by
  have same : ∀ location,
      ((tree.erase (directory ++ [name])).IsPlain location ∧
        (written tree directory name content).IsPlain location) ∨
      (written tree directory name content).get? location =
        (tree.erase (directory ++ [name])).get? location := by
    intro location
    rcases get?_written_cases tree directory name content location with
      ⟨rfl, file⟩ | ⟨rfl, free⟩ | ⟨there, same⟩
    · exact .inl ⟨.inl (get?_erase_self _ _ (by simp)), .inr ⟨content, file⟩⟩
    · refine .inl ⟨?_, .inl free⟩
      rwa [IsPlain, get?_erase_of_ne _ (sibling_ne_output directory name).symm]
    · exact .inr (same.trans (get?_erase_of_ne _ there.symm).symm)
  constructor
  · intro read
    -- Only the directory of the file can have been lost, and a path that leads to a file has one.
    obtain ⟨location, found, _⟩ := content_eq_ok_iff.1 read
    rw [← parent_child_of_named ready.writable.named] at found
    obtain ⟨elsewhere, led, _⟩ := directoryAt?_of_locate_child
      (grounded_written ready.grounded ready.standing ready.noDirectory plain.ne_directory)
      (get?_written_of_directory ready.noDirectory plain.ne_directory ready.home) found
    have erased := directoryAt?_keepsWays (keepsWays_of_plain fun location =>
      (same location).imp And.right Eq.symm) led
    cases ready.eq_of_reached_erased erased
    refine detached_of_reached ready.reached (fun target link => ?_) erased
    rcases plain with none | ⟨old, file⟩
    · cases link.symm.trans none
    · cases link.symm.trans file
  · intro detached
    have kept := directoryAt?_keepsWays (keepsWays_of_plain fun location =>
      (same location).imp And.left id) (ready.reached_erased detached)
    exact content_of_holds ready.writable
      ⟨kept, get?_written_output _ _ _ _, get?_written_sibling _ _ _ _⟩

variable {front : Location} {last : Name} (leads : SiblingLeads tree directory name target front last)
  (ends : goal.location = front ++ [last])

include leads ends

theorem Ready.content_linkedOver (detached : Detached tree start path directory name) :
    (linkedOver tree directory name target (front ++ [last]) content).content start path =
      .ok content := by
  have relinked := leads.relinked content
  have erased := ready.reached_erased detached
  obtain ⟨unhindered, apart⟩ := detached goal ready.located
  obtain ⟨_, led, _, way⟩ :=
    directoryAt?_of_locate_child ready.grounded_erased ready.home_erased unhindered
  cases erased.symm.trans led
  have plain : (tree.erase (directory ++ [name])).IsPlain goal.location := by
    rw [IsPlain, get?_erase_of_ne _ apart.symm, ends]
    exact leads.plain
  obtain ⟨final, place, found⟩ := relinked.located ready.grounded_erased (hiddenName_ne_up name)
    ready.home_erased ready.writable.output erased (relinked.isBlind way plain) unhindered apart
  rw [ends] at apart place
  have filled : (linkedOver tree directory name target (front ++ [last]) content).get?
      (front ++ [last]) = some (.file content) :=
    get?_linkedOver_place (by simp) apart leads.place_ne_sibling
  cases (locate_eq_ok_iff.1 found).2.2.eq_found place filled
  rw [parent_child_of_named ready.writable.named] at found
  exact content_eq_ok_iff.2 ⟨_, found, filled⟩

theorem Ready.isBlind_linkedOver (content : ByteArray) :
    (linkedOver tree directory name target (front ++ [last]) content).IsBlind directory name := by
  have relinked := leads.relinked content
  have keeps : KeepsWays (tree.erase (directory ++ [name])) tree := keepsWays_erased (by simp)
  refine relinked.symm.isBlind_of_new
    (leads.grounded_linkedOver content ready.grounded ready.noDirectory ready.standing)
    ready.writable.output.down
    (relinked.directories (get?_erase_of_directory ready.noDirectory ready.standing))
    (hiddenName_ne_up name) ready.writable.sibling.fits fun {links final} there way => ?_
  obtain ⟨_, led, _, before⟩ := directoryAt?_of_locate_child ready.grounded ready.home ready.located
  cases ready.reached.symm.trans led
  cases before.unique (way.keepsWays keeps there)
  cases ends
  exact leads.plain.ne_directory (keeps.directory there)

theorem Ready.detached_of_content (read :
    (linkedOver tree directory name target (front ++ [last]) content).content start path =
      .ok other) : Detached tree start path directory name := by
  have relinked := leads.relinked content
  have blind := ready.isBlind_linkedOver leads ends content
  have grounded :=
    leads.grounded_linkedOver content ready.grounded ready.noDirectory ready.standing
  have home := relinked.directories ready.home_erased
  obtain ⟨location, found, file⟩ := content_eq_ok_iff.1 read
  rw [← parent_child_of_named ready.writable.named] at found
  obtain ⟨elsewhere, led, _⟩ := directoryAt?_of_locate_child grounded home found
  have erased := directoryAt?_of_blind grounded
    (relinked.symm.blind (hiddenName_ne_up name) blind) home led
  cases ready.eq_of_reached_erased erased
  have notSibling : location ≠ directory ++ [hiddenName name] := by
    rintro rfl
    cases relinked.gone.symm.trans file
  have notOutput : location ≠ directory ++ [name] := by
    rintro rfl
    cases relinked.stands.symm.trans file
  obtain ⟨final, place, unhindered⟩ := relinked.symm.located grounded ready.writable.output.down
    home ready.writable.sibling led blind found notSibling
  -- What the sibling leads to without the replaced entry, it leads to with that entry as well.
  have keeps : KeepsWays (tree.erase (directory ++ [name])) tree := keepsWays_erased (by simp)
  have same : tree.get? final.location = (tree.erase (directory ++ [name])).get? final.location := by
    rw [place]
    exact (get?_erase_of_ne _ notOutput.symm).symm
  obtain ⟨clean, short, before⟩ := locate_eq_ok_iff.1 unhindered
  obtain ⟨again, _, way, equal⟩ := before.rerouted ready.grounded_erased
    (get?_origin ready.home_erased) keeps.directory (fun link => .inl (keeps.link link))
    fun plain => by rwa [IsPlain, same]
  cases equal same
  intro goal located
  cases (locate_eq_ok_iff.2 ⟨clean, short, way⟩).symm.trans located
  exact ⟨unhindered, place ▸ notOutput⟩

end Ready

/-- A write that ends well is read back from its path exactly if what was replaced was not on the way
to the sibling. -/
theorem content_of_run_iff {text : String} {count : Nat} (grounded : Grounded tree)
    (standing : tree.get? start = some .directory)
    (succeeds : (run tree start path text).outcome = .ok count)
    (place : place? tree start path = some (directory, name)) :
    (run tree start path text).tree.content start path = .ok text.toUTF8 ↔
      Detached (tree.makeDirectories start path.parent).tree start path directory name := by
  obtain ⟨_, staged, done, given, made, wrote, moved, _⟩ := steps_of_run succeeds
  obtain ⟨named, reached⟩ := place?_eq_some_iff.1 place
  cases given.symm.trans named
  have left : (run tree start path text).tree = done := by
    rw [run_eq, named]
    simp only [made, wrote, moved]
  rw [left]
  replace grounded := grounded.makeDirectories standing path.parent
  have home := (addsDirectories_makeDirectories tree start path.parent).get?_of_some standing
  generalize (tree.makeDirectories start path.parent).tree = prepared at *
  obtain ⟨goal, located, plain, _, change⟩ := exists_of_writeFile grounded home wrote
  have keeps : KeepsWays prepared staged := change ▸ keepsWays_place plain _
  have still := directoryAt?_keepsWays keeps reached
  obtain ⟨output, free⟩ := no_directory_of_replace named still moved
  have noDirectory : prepared.get? (directory ++ [name]) ≠ some .directory :=
    fun stands => free (keeps.directory stands)
  have ready : Ready prepared start path directory name goal :=
    ⟨grounded, home, ⟨named, output, admits_of_locate (hiddenName_ne_up name) located⟩, reached,
      noDirectory, located⟩
  by_cases link : ∃ target, prepared.get? (directory ++ [hiddenName name]) = some (.link target)
  · -- The text is where the link leads, and the link itself is what is moved.
    obtain ⟨target, linked⟩ := link
    obtain ⟨_, _, way⟩ := locate_eq_ok_iff.1 located
    obtain ⟨front, last, down, stands, ends⟩ := way.exists_last grounded (get?_origin home) plain
    have leads : SiblingLeads prepared directory name target front last :=
      ⟨linked, stands, ends ▸ plain, down⟩
    have replaced := replace_sibling ready.writable still (keeps.link linked) rfl free
    have after := Except.ok.inj (moved.symm.trans replaced)
    rw [change, ends] at after
    subst after
    exact ⟨ready.detached_of_content leads ends, ready.content_linkedOver leads ends⟩
  · obtain ⟨_, bare⟩ := plain_of_writeFile reached (fun target linked => link ⟨target, linked⟩) wrote
    cases wrote.symm.trans (writeFile_sibling ready.writable.sibling reached bare)
    have replaced :=
      replace_sibling ready.writable still (get?_place_self _ _ _ (by simp)) rfl free
    cases moved.symm.trans replaced
    exact ready.content_written_iff bare

theorem detached_of_run {text : String} {count : Nat}
    (succeeds : (run tree start path text).outcome = .ok count)
    (place : place? tree start path = some (directory, name))
    (output : ∀ target, tree.get? (directory ++ [name]) ≠ some (.link target))
    (sibling : ∀ target, tree.get? (directory ++ [hiddenName name]) ≠ some (.link target)) :
    Detached (tree.makeDirectories start path.parent).tree start path directory name := by
  have adds := addsDirectories_makeDirectories tree start path.parent
  obtain ⟨_, _, noDirectory, _⟩ := written_of_run succeeds place sibling
  refine detached_of_unlinked (place?_eq_some_iff.1 place).2
    (fun target linked => sibling target (adds.link_of_link linked)) ?_
  cases stands : (tree.makeDirectories start path.parent).tree.get? (directory ++ [name]) with
  | none => exact .inl stands
  | some entry =>
    cases entry with
    | directory => exact absurd stands noDirectory
    | file old => exact .inr ⟨old, stands⟩
    | link target => exact absurd (adds.link_of_link stands) (output target)

end StagedWrite

end PageRoutes
