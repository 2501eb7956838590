import PageRoutes.Config

/-! Raw changes of the file system, and the page changes that matter.

Only what is added or removed at or below the pages directory can change the routes; a
modification cannot. Paths are compared component by component.
-/

set_option autoImplicit false

namespace PageRoutes

inductive RawChange where
  | added
  | modified
  | deleted
  deriving DecidableEq

inductive ChangeKind where
  | created
  | deleted
  | named (label : String)
  deriving DecidableEq

def ChangeKind.label : ChangeKind → String
  | .created => "created"
  | .deleted => "deleted"
  | .named label => label

def ChangeKind.ofLabel (label : String) : ChangeKind :=
  if label = "created" then .created else if label = "deleted" then .deleted else .named label

structure PageChange where
  path : Path
  kind : ChangeKind
  deriving DecidableEq

namespace PageChange

def kindOf? : RawChange → Option ChangeKind
  | .added => some .created
  | .modified => none
  | .deleted => some .deleted

def classify? (config : Config) (change : RawChange) (path : Path) : Option PageChange :=
  match kindOf? change with
  | some kind => if path.IsUnder config.pagesPath then some ⟨path, kind⟩ else none
  | none => none

def before (first second : PageChange) : Bool :=
  first.path.toString ≤ second.path.toString

/-- Reported pairs of a change and a path; a pair reported twice counts once. -/
def relevant (config : Config) (changes : List (RawChange × String)) : List PageChange :=
  (changes.eraseDups.filterMap fun (change, path) =>
    classify? config change (Path.ofString path)).mergeSort before

theorem classify?_modified (config : Config) (path : Path) :
    classify? config .modified path = none := rfl

end PageChange

end PageRoutes
