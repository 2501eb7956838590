import PageRoutes.Proofs.Discovery.Sight
import PageRoutes.Proofs.FileTree.LinkFree

/-! Discovery without symbolic links.

What is in a file does not matter then, and neither does what stands elsewhere: where below the
pages directory there are files, and where directories, settles what discovery finds.
-/

set_option autoImplicit false

namespace PageRoutes.Discovery

open FileTree

variable {tree other : FileTree} {start base : Location} {path : Path} {way : Location}
  {sources : List Path}

/-- The same directories and the same files stand below a directory. -/
def SameKinds (tree other : FileTree) (base : Location) : Prop :=
  ∀ way, (tree.get? (base ++ way)).map Entry.isDirectory =
    (other.get? (base ++ way)).map Entry.isDirectory

theorem leadsToDirectory_eq_of_linkFree (free : LinkFree tree) (location : Location) :
    leadsToDirectory tree location =
      ((tree.get? location).map Entry.isDirectory).getD false := by
  unfold leadsToDirectory
  cases stands : tree.get? location with
  | none => rfl
  | some entry =>
    cases entry with
    | file content => rfl
    | directory => rfl
    | link target => exact absurd stands (free location target)

/-- Without links the kind of an entry is all that there is to be seen, but for the right to list
it. -/
theorem sight?_eq_of_linkFree (free : LinkFree tree) (location : Location) :
    sight? tree location = ((tree.get? location).map Entry.isDirectory).map fun directory =>
      ⟨false, directory, directory && tree.unlistable.contains location⟩ := by
  rw [sight?, leadsToDirectory_eq_of_linkFree free]
  cases stands : tree.get? location with
  | none => rfl
  | some entry =>
    cases entry with
    | file content => rfl
    | directory => rfl
    | link target => exact absurd stands (free location target)

theorem SameKinds.sameSights (same : SameKinds tree other base) (free : LinkFree tree)
    (otherFree : LinkFree other) (unlistable : other.unlistable = tree.unlistable) :
    SameSights tree other base base := by
  intro way
  rw [sight?_eq_of_linkFree free, sight?_eq_of_linkFree otherFree, same, unlistable]

/-- The same files and directories below the pages directory give the same discovery. -/
theorem pages_of_sameKinds (free : LinkFree tree) (otherFree : LinkFree other)
    (unlistable : other.unlistable = tree.unlistable)
    (reached : ∀ base, tree.directoryAt? start path = some base →
      other.directoryAt? start path = some base ∧ SameKinds tree other base)
    (discovered : pages tree start path = .ok sources) : pages other start path = .ok sources := by
  obtain ⟨base, here, _⟩ := pages_eq_ok_iff.1 discovered
  obtain ⟨there, same⟩ := reached base here
  refine pages_of_alike ⟨by rw [here, there], fun first second one two => ?_⟩ discovered
  cases here.symm.trans one
  cases there.symm.trans two
  exact same.sameSights free otherFree unlistable

end PageRoutes.Discovery
