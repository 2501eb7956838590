import PageRoutes.Proofs.Discovery
import PageRoutes.Proofs.FileTree.Blind
import PageRoutes.Proofs.StagedWrite

/-! Discovery after a write.

A write leaves directories, the file, and no sibling. Whatever led to a directory still does so if
the file has not taken the place of a link to one, and what was a page is one still if no directory
has been made behind it. So the pages are the same, but for the file itself.
-/

set_option autoImplicit false

namespace PageRoutes

namespace StagedWrite

open FileTree

/-- A tree in which the directories of a write are there and nothing is in the way of the write:
no directory, and no link that leads to one. -/
structure Prepared (tree : FileTree) (directory : Location) (name : Name) : Prop where
  grounded : Grounded tree
  stands : tree.get? directory = some .directory
  output : tree.IsBlind directory name
  sibling : tree.IsPlain (directory ++ [hiddenName name])

variable {tree files : FileTree} {start base directory location : Location} {path : Path}
  {way : Location} {name : Name} {content : ByteArray}

namespace Prepared

theorem same_or_blind (prepared : Prepared tree directory name) (here : Location) (last : Name) :
    tree.IsBlind here last ∨
      (written tree directory name content).get? (here ++ [last]) = tree.get? (here ++ [last]) := by
  rcases get?_written_cases tree directory name content (here ++ [last]) with
    ⟨there, _⟩ | ⟨beside, _⟩ | ⟨_, same⟩
  · obtain ⟨rfl, same⟩ := List.append_inj' there rfl
    cases same
    exact .inl prepared.output
  · obtain ⟨rfl, same⟩ := List.append_inj' beside rfl
    cases same
    exact .inl (isBlind_of_isPlain (hiddenName_ne_up name) prepared.sibling)
  · exact .inr same

theorem directoryAt?_written (prepared : Prepared tree directory name)
    (standing : tree.get? start = some .directory)
    (reached : tree.directoryAt? start path = some location) :
    (written tree directory name content).directoryAt? start path = some location :=
  directoryAt?_of_blind prepared.grounded prepared.same_or_blind standing reached

theorem keepsWays_of_written (tree : FileTree) (directory : Location) (name : Name)
    (content : ByteArray) : KeepsWays (written tree directory name content) tree := by
  refine keepsWays_of_plain fun location => ?_
  rcases get?_written_cases tree directory name content location with
    ⟨_, file⟩ | ⟨_, free⟩ | ⟨_, same⟩
  · exact .inl (.inr ⟨content, file⟩)
  · exact .inl (.inl free)
  · exact .inr same.symm

theorem grounded_written (prepared : Prepared tree directory name) :
    Grounded (written tree directory name content) :=
  StagedWrite.grounded_written prepared.grounded prepared.stands prepared.output.stands
    prepared.sibling.ne_directory

end Prepared

theorem isPageFile_hiddenName (name : Name) :
    Route.isPageFile (hiddenName name).text = false := by
  rw [Route.isPageFile, List.any_eq_false]
  intro extension member ending
  have other : ∀ extension ∈ Route.pageExtensions,
      extension.toList.length = ".tmp".toList.length ∧ extension.toList ≠ ".tmp".toList := by
    decide
  obtain ⟨lengths, apart⟩ := other extension member
  rw [List.isSuffixOf_iff_suffix, hiddenName, String.toList_append] at ending
  obtain ⟨front, same⟩ := ending
  exact apart (List.append_inj' same lengths).2

end StagedWrite

namespace Discovery

open FileTree StagedWrite

variable {tree other files : FileTree} {start base directory location : Location} {path : Path}
  {way : Location} {name : Name} {content : ByteArray} {sources : List Path}

theorem leadsToDirectory_mono (same : other.get? location = tree.get? location)
    (keeps : ∀ directory, tree.directoryAt? [] (Path.ofLocation location) = some directory →
      other.directoryAt? [] (Path.ofLocation location) = some directory)
    (leads : leadsToDirectory tree location = true) : leadsToDirectory other location = true := by
  rw [leadsToDirectory_iff] at leads ⊢
  rw [same]
  refine leads.imp_right fun ⟨link, directory, reached⟩ => ?_
  exact ⟨link, directory, keeps directory reached⟩

section Written

variable (grounded : Grounded files) (adds : AddsDirectories files tree)
  (prepared : Prepared tree directory name)
  (files_of_ways : ∀ way ∈ ways files base, leadsToDirectory tree (base ++ way) = false)
  (output : ∀ front, directory = base ++ front → IsOpen front →
    Route.isPageFile name.text = true → front ++ [name] ∈ ways files base)

include grounded adds prepared output in
theorem mem_ways_of_written (listed : way ∈ ways (written tree directory name content) base) :
    way ∈ ways files base := by
  obtain ⟨front, last, rfl, opened, ending, stands, file⟩ :=
    (mem_ways_iff_of_grounded prepared.grounded_written).1 listed
  rcases get?_written_cases tree directory name content (base ++ (front ++ [last])) with
    ⟨there, _⟩ | ⟨_, free⟩ | ⟨_, now⟩
  · rw [← List.append_assoc] at there
    obtain ⟨here, same⟩ := List.append_inj' there rfl
    cases same
    exact output front here.symm opened ending
  · rw [free] at stands
    cases stands
  · rw [now] at stands
    rcases adds (base ++ (front ++ [last])) with same | ⟨_, made⟩
    · refine (mem_ways_iff_of_grounded grounded).2
        ⟨front, last, rfl, opened, ending, same ▸ stands, ?_⟩
      rw [Bool.eq_false_iff]
      intro leads
      rw [leadsToDirectory_mono (now.trans same) (fun _ reached =>
        prepared.directoryAt?_written (get?_root tree)
          (directoryAt?_keepsWays adds.keepsWays reached)) leads] at file
      cases file
    · rw [leadsToDirectory_iff.2 (.inl (now.trans made))] at file
      cases file

include grounded adds prepared files_of_ways in
theorem mem_ways_written (listed : way ∈ ways files base) :
    way ∈ ways (written tree directory name content) base := by
  have noDirectory := files_of_ways way listed
  obtain ⟨front, last, rfl, opened, ending, stands, _⟩ :=
    (mem_ways_iff_of_grounded grounded).1 listed
  suffices still : ((written tree directory name content).get? (base ++ (front ++ [last]))).isSome ∧
      leadsToDirectory (written tree directory name content) (base ++ (front ++ [last])) = false from
    (mem_ways_iff_of_grounded prepared.grounded_written).2
      ⟨front, last, rfl, opened, ending, still⟩
  rcases get?_written_cases tree directory name content (base ++ (front ++ [last])) with
    ⟨_, file⟩ | ⟨beside, _⟩ | ⟨_, now⟩
  · refine ⟨by rw [file]; rfl, ?_⟩
    rw [Bool.eq_false_iff]
    intro leads
    rcases leadsToDirectory_iff.1 leads with directory | ⟨⟨target, link⟩, _⟩
    · rw [file] at directory
      cases directory
    · rw [file] at link
      cases link
  · rw [← List.append_assoc] at beside
    obtain ⟨_, same⟩ := List.append_inj' beside rfl
    cases same
    rw [isPageFile_hiddenName] at ending
    cases ending
  · obtain ⟨entry, found⟩ := Option.isSome_iff_exists.1 stands
    refine ⟨by rw [now, adds.get?_of_some found]; rfl, ?_⟩
    rw [Bool.eq_false_iff]
    intro leads
    rw [leadsToDirectory_mono now.symm (fun _ reached =>
      directoryAt?_keepsWays (Prepared.keepsWays_of_written tree directory name content) reached)
      leads] at noDirectory
    cases noDirectory

end Written

theorem blocked?_eq_none_of_grounded (grounded : Grounded files)
    (same : tree.unlistable = files.unlistable) (listed : blocked? files base = none) :
    blocked? tree base = none := by
  rw [blocked?_eq_none_iff] at listed ⊢
  intro way visited member
  rw [same] at member
  have stands := grounded.unlistable _ member
  exact listed way (visits_of_isOpen grounded (isOpen_of_visits visited) stands) member

end Discovery

end PageRoutes
