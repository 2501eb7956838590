import PageRoutes.Proofs.FileTree.Refilled
import PageRoutes.Proofs.StagedWrite.Course

/-! When a staged write fails without a report.

A failed step is reported as the failure of the write. There are four ways around that: the path has
no name, it holds a character that no path may hold, the sibling cannot be looked up when it is to be
cleared away, or a directory stands in its place. Main statement: these are all, whatever the text.
-/

set_option autoImplicit false

namespace PageRoutes

namespace FileTree

variable {tree : FileTree} {start here location : Location} {path : Path} {names : List Name}
  {links : Nat} {goal : Target} {content : ByteArray} {error : FileError}

theorem isPresent_eq_true (present : tree.isPresent start path = .ok true) :
    ∃ location, tree.locate start true path = .ok (.found location) := by
  unfold isPresent probe at present
  split at present
  · rename_i location located
    exact ⟨location, located⟩
  · cases present
  · cases present
  · cases present

theorem isPresent_eq_error_iff :
    tree.isPresent start path = .error error ↔ tree.probe start path = .error error := by
  unfold isPresent
  cases tree.probe start path <;> simp [Except.map]

theorem isDirectory_eq_error_iff :
    tree.isDirectory start path = .error error ↔ tree.probe start path = .error error := by
  unfold isDirectory
  cases tree.probe start path <;> simp [Except.map]

theorem isRefusal_of_makeDirectory (failed : tree.makeDirectory start path = .error error) :
    error.isRefusal = !hasNul path := by
  unfold makeDirectory at failed
  split at failed
  · rename_i refused
    cases failed
    exact isRefusal_of_locate refused
  · rename_i located
    cases failed
    rw [(locate_eq_ok_iff.1 located).1]
    rfl
  · cases failed

theorem isRefusal_of_toleratedBy {cause : FileError}
    (failed : tree.toleratedBy start path cause = .error error) :
    error.isRefusal = cause.isRefusal := by
  unfold toleratedBy at failed
  split at failed
  · rename_i refusal
    split at failed
    · cases failed
    · cases failed
      rfl
    · rename_i worse refused
      cases failed
      cases (probe_eq_error_iff.1 (isDirectory_eq_error_iff.1 refused)).1
      exact refusal.symm
  · cases failed
    rfl

theorem isRefusal_of_makeDirectoriesUp {anchor : Anchor}
    (failed : (tree.makeDirectoriesUp start anchor names).outcome = .error error) :
    error.isRefusal = !hasNul ⟨anchor, names.reverse⟩ := by
  induction names generalizing error with
  | nil =>
    rw [makeDirectoriesUp] at failed
    split at failed
    · cases failed
    · rename_i cause refused
      rw [isRefusal_of_toleratedBy failed]
      exact isRefusal_of_makeDirectory refused
  | cons name above ih =>
    rw [makeDirectoriesUp] at failed
    split at failed
    · cases failed
    · rename_i missing
      have clean := isRefusal_of_makeDirectory missing
      simp only at failed
      split at failed
      · rename_i worse refused
        -- The directories above have the characters of the whole path at most.
        cases failed
        rw [ih refused]
        simp only [hasNul, List.reverse_cons, List.any_append, FileError.isRefusal] at clean ⊢
        simp_all
      · split at failed
        · cases failed
        · cases failed
          exact clean
        · rename_i cause other refused
          rw [isRefusal_of_toleratedBy failed]
          exact isRefusal_of_makeDirectory refused
    · rename_i cause other refused
      rw [isRefusal_of_toleratedBy failed]
      exact isRefusal_of_makeDirectory refused

theorem isRefusal_of_makeDirectories
    (failed : (tree.makeDirectories start path).outcome = .error error) :
    error.isRefusal = !hasNul path := by
  rw [makeDirectories] at failed
  rw [isRefusal_of_makeDirectoriesUp failed, List.reverse_reverse]

theorem clean_of_makeDirectories (made : (tree.makeDirectories start path).outcome = .ok ()) :
    hasNul path = false := by
  obtain ⟨directory, reached⟩ := directoryAt?_makeDirectories made
  exact (locate_eq_ok_iff.1 (directoryAt?_eq_some_iff.1 reached).1).1

theorem isRefusal_of_writeFile (failed : tree.writeFile start path content = .error error) :
    error.isRefusal = !hasNul path := by
  unfold writeFile at failed
  split at failed
  · rename_i refused
    cases failed
    exact isRefusal_of_locate refused
  · cases failed
  · rename_i located
    split at failed
    · cases failed
      rw [(locate_eq_ok_iff.1 located).1]
      rfl
    · cases failed

theorem clean_of_writeFile {staged : FileTree}
    (wrote : tree.writeFile start path content = .ok staged) : hasNul path = false := by
  rw [← Bool.not_eq_true]
  intro held
  rw [writeFile, locate_of_hasNul tree start true held] at wrote
  cases wrote

end FileTree

namespace StagedWrite

open FileTree

/-- A write that fails, but not with a report of its own. -/
def Unreported (outcome : Except WriteFailure Nat) : Prop :=
  ∃ failure, outcome = .error failure ∧ ∀ error, failure ≠ .reported error

/-- A sibling that cannot be cleared away: it cannot be looked up, or it is a directory. -/
def Stuck (tree : FileTree) (start : Location) (sibling : Path) : Prop :=
  tree.locate start true sibling = .error .nameTooLong ∨
    ∃ location, tree.locate start false sibling = .ok (.found location) ∧
      tree.get? location = some .directory

/-- A sibling that a system does not clear away. -/
def StuckOn (system : FileSystem) (tree : FileTree) (sibling : Path) : Prop :=
  (∃ error, system.isPresent tree sibling = .error error) ∨
    system.isPresent tree sibling = .ok true ∧
      ∃ error, (system.unlink tree sibling).outcome = .error error

variable {tree : FileTree} {start : Location} {path sibling : Path} {name : Name}
  {cause : FileError} {passed : List FileTree} {text : String}

theorem not_unreported_reported {error : WriteError} : ¬ Unreported (.error (.reported error)) := by
  rintro ⟨failure, same, other⟩
  cases same
  exact other error rfl

theorem unreported_refused (error : FileError) : Unreported (.error (.refused error)) := by
  refine ⟨_, rfl, fun other same => ?_⟩
  cases same

theorem unreported_failOn_iff {system : FileSystem} :
    Unreported (failOn system tree path sibling cause passed).outcome ↔
      cause.isRefusal = false ∨ StuckOn system tree sibling := by
  unfold failOn clear StuckOn
  cases refusal : cause.isRefusal with
  | false =>
    rw [if_neg Bool.false_ne_true]
    exact ⟨fun _ => .inl rfl, fun _ => unreported_refused cause⟩
  | true =>
    rw [if_pos rfl, or_iff_right nofun]
    cases system.isPresent tree sibling with
    | error error => exact ⟨fun _ => .inl ⟨error, rfl⟩, fun _ => unreported_refused error⟩
    | ok stands =>
      cases stands with
      | false => exact iff_of_false not_unreported_reported (by simp)
      | true =>
        simp only [reduceCtorEq, exists_false, true_and, false_or]
        split
        · rename_i cleared
          rw [cleared]
          exact iff_of_false not_unreported_reported (by simp)
        · rename_i error stuck
          exact ⟨fun _ => ⟨error, stuck⟩, fun _ => unreported_refused error⟩

theorem stuckOn_plain_iff : StuckOn (.plain start) tree sibling ↔ Stuck tree start sibling := by
  have unlinks : ((FileSystem.plain start).unlink tree sibling).outcome =
      (tree.unlink start sibling).map fun _ => () := by
    simp only [FileSystem.plain, FileTree.Run.ofChange]
    cases tree.unlink start sibling <;> rfl
  rw [StuckOn, unlinks]
  change (∃ error, tree.isPresent start sibling = .error error) ∨
    tree.isPresent start sibling = .ok true ∧ _ ↔ _
  cases present : tree.isPresent start sibling with
  | error error =>
    obtain ⟨rfl, long⟩ := probe_eq_error_iff.1 (isPresent_eq_error_iff.1 present)
    exact ⟨fun _ => .inl long, fun _ => .inl ⟨_, rfl⟩⟩
  | ok stands =>
    have short : tree.locate start true sibling ≠ .error .nameTooLong := by
      intro long
      have refused := isPresent_eq_error_iff.2 (probe_eq_error_iff.2 ⟨rfl, long⟩)
      rw [present] at refused
      cases refused
    rw [Stuck, or_iff_right short, or_iff_right (by simp), Except.ok.injEq]
    cases stands with
    | false =>
      refine iff_of_false (fun shown => Bool.false_ne_true shown.1) ?_
      rintro ⟨location, located, directory⟩
      have found := locate_followed located directory
      simp [isPresent, probe, found, directory, Except.map] at present
    | true =>
      obtain ⟨location, followed⟩ := isPresent_eq_true present
      obtain ⟨reached, located⟩ := locate_unfollowed followed
      simp only [true_and, unlink, located, Except.ok.injEq, Target.found.injEq, exists_eq_left']
      cases stands : tree.get? reached with
      | none => simp [Except.map]
      | some entry => cases entry <;> simp [Except.map]

theorem unreported_fail_iff :
    Unreported (fail tree start path sibling cause passed).outcome ↔
      cause.isRefusal = false ∨ Stuck tree start sibling :=
  unreported_failOn_iff.trans (or_congr_right stuckOn_plain_iff)

/-- What keeps a write on a system from ending well or with a report: the text has no bytes, the
path has no name, or a step fails and this is no refusal, or nothing can be cleared away after it. -/
inductive UnwritableOn (system : FileSystem) (tree : FileTree) (path : Path) (text : String) :
    Prop where
  | unencodable : system.encode text = none → UnwritableOn system tree path text
  | unnamed : path.lastName? = none → UnwritableOn system tree path text
  | raised {name : Name} {content : ByteArray} {cause : FileError} :
      path.lastName? = some name → system.encode text = some content →
      (steps system tree path (hiddenSibling path name) content).outcome = .error cause →
      cause.isRefusal = false ∨
        StuckOn system (steps system tree path (hiddenSibling path name) content).tree
          (hiddenSibling path name) →
      UnwritableOn system tree path text

theorem unreported_runOn_iff {system : FileSystem} :
    Unreported (runOn system tree path text).outcome ↔ UnwritableOn system tree path text := by
  unfold runOn
  split
  · rename_i encoded
    exact ⟨fun _ => .unencodable encoded, fun _ => unreported_refused _⟩
  · rename_i unnamed
    exact ⟨fun _ => .unnamed unnamed, fun _ => ⟨_, rfl, nofun⟩⟩
  · rename_i content name encoded named
    simp only
    split
    · rename_i cause failed
      rw [unreported_failOn_iff]
      refine ⟨.raised named encoded failed, fun unwritable => ?_⟩
      cases unwritable with
      | unencodable none => cases encoded.symm.trans none
      | unnamed none => cases named.symm.trans none
      | raised given bytes raised stuck =>
        cases given.symm.trans named
        cases bytes.symm.trans encoded
        cases raised.symm.trans failed
        exact stuck
    · rename_i done
      refine iff_of_false (fun ⟨_, failed, _⟩ => nomatch failed) fun unwritable => ?_
      cases unwritable with
      | unencodable none => cases encoded.symm.trans none
      | unnamed none => cases named.symm.trans none
      | raised given bytes raised _ =>
        cases given.symm.trans named
        cases bytes.symm.trans encoded
        cases raised.symm.trans done

/-- What keeps a write from ending well or with a report. -/
inductive Unwritable (tree : FileTree) (start : Location) (path : Path) : Prop where
  | unnamed : path.lastName? = none → Unwritable tree start path
  | unusable {name : Name} : path.lastName? = some name → hasNul path.parent = true →
      Unwritable tree start path
  | unusableName {name : Name} : path.lastName? = some name →
      (tree.makeDirectories start path.parent).outcome = .ok () → hasNul path = true →
      Unwritable tree start path
  | stuck {name : Name} : path.lastName? = some name →
      Stuck (tree.makeDirectories start path.parent).tree start (hiddenSibling path name) →
      Unwritable tree start path

theorem unwritable_iff (named : path.lastName? = some name) :
    Unwritable tree start path ↔ hasNul path.parent = true ∨
      ((tree.makeDirectories start path.parent).outcome = .ok () ∧ hasNul path = true) ∨
      Stuck (tree.makeDirectories start path.parent).tree start (hiddenSibling path name) := by
  constructor
  · intro unwritable
    cases unwritable with
    | unnamed none =>
      rw [named] at none
      cases none
    | unusable _ held => exact .inl held
    | unusableName _ made held => exact .inr (.inl ⟨made, held⟩)
    | stuck given stuck =>
      cases given.symm.trans named
      exact .inr (.inr stuck)
  · rintro (held | ⟨made, held⟩ | stuck)
    · exact .unusable named held
    · exact .unusableName named made held
    · exact .stuck named stuck

theorem not_stuck_of_writeFile {staged : FileTree} {content : ByteArray}
    (wrote : tree.writeFile start sibling content = .ok staged) : ¬ Stuck tree start sibling := by
  rintro (long | ⟨location, located, directory⟩)
  · rw [writeFile, long] at wrote
    cases wrote
  · rw [writeFile, locate_followed located directory] at wrote
    simp only [directory] at wrote
    cases wrote

theorem not_stuck_staged {staged : FileTree} {content : ByteArray} (grounded : Grounded tree)
    (standing : tree.get? start = some .directory)
    (wrote : tree.writeFile start sibling content = .ok staged) :
    ¬ Stuck staged start sibling := by
  obtain ⟨location, followed, file⟩ := locate_of_writeFile grounded standing wrote
  rintro (long | ⟨other, located, directory⟩)
  · rw [followed] at long
    cases long
  · cases followed.symm.trans (locate_followed located directory)
    rw [directory] at file
    cases file

theorem not_unwritable_of_writeFile {staged : FileTree} (named : path.lastName? = some name)
    (made : (tree.makeDirectories start path.parent).outcome = .ok ())
    (wrote : (tree.makeDirectories start path.parent).tree.writeFile start
      (hiddenSibling path name) text.toUTF8 = .ok staged) : ¬ Unwritable tree start path := by
  rw [unwritable_iff named]
  rintro (held | ⟨_, held⟩ | stuck)
  · rw [clean_of_makeDirectories made] at held
    cases held
  · rw [← hasNul_hiddenSibling named, clean_of_writeFile wrote] at held
    cases held
  · exact not_stuck_of_writeFile wrote stuck

/-- A write fails without a report exactly where it is unwritable, whatever the text. -/
theorem unreported_run_iff (text : String) (grounded : Grounded tree)
    (standing : tree.get? start = some .directory) :
    Unreported (run tree start path text).outcome ↔ Unwritable tree start path := by
  have course := course_run tree start path text
  generalize run tree start path text = write at course
  have clean : (tree.makeDirectories start path.parent).outcome = .ok () →
      ¬ hasNul path.parent = true := by
    intro made held
    rw [clean_of_makeDirectories made] at held
    cases held
  cases course with
  | unnamed none => exact ⟨fun _ => .unnamed none, fun _ => ⟨_, rfl, nofun⟩⟩
  | @unprepared name cause named failed =>
    rw [unreported_fail_iff, unwritable_iff named, isRefusal_of_makeDirectories failed, failed]
    simp
  | @unstaged name cause named made failed =>
    rw [unreported_fail_iff, unwritable_iff named, isRefusal_of_writeFile failed,
      hasNul_hiddenSibling named]
    simp [made, clean made]
  | @unplaced name cause staged named made wrote failed =>
    -- A sibling that has been written is a file that can be looked up, and it is cleared away.
    have groundedThen := grounded.makeDirectories standing path.parent
    have standingThen := (addsDirectories_makeDirectories tree start path.parent).get?_of_some standing
    refine iff_of_false ?_ (not_unwritable_of_writeFile named made wrote)
    rw [unreported_fail_iff]
    rintro (own | stuck)
    · obtain ⟨location, followed, _⟩ := locate_of_writeFile groundedThen standingThen wrote
      obtain ⟨_, located⟩ := locate_unfollowed followed
      rw [isRefusal_of_replace named located failed] at own
      cases own
    · exact not_stuck_staged groundedThen standingThen wrote stuck
  | @placed name staged done named made wrote moved =>
    refine iff_of_false ?_ (not_unwritable_of_writeFile named made wrote)
    rintro ⟨failure, same, _⟩
    cases same

end StagedWrite

end PageRoutes
