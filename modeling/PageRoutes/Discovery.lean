import PageRoutes.FileSystem
import PageRoutes.Page

/-! Page discovery: every page file below a directory.

One visited directory that cannot be listed fails the whole discovery, because a partial list of
pages would lose routes. The result is in the order of the relative paths.
-/

set_option autoImplicit false

namespace PageRoutes

inductive DiscoveryError where
  | missing (pagesDirectory : Path)
  | unlisted (directory : String) (cause : FileError)
  deriving DecidableEq

def DiscoveryError.message : DiscoveryError → String
  | .missing pagesDirectory => "Pages directory not found: " ++ pagesDirectory.toString
  | .unlisted directory cause =>
    "Failed to scan pages directory " ++ directory ++ ": " ++ cause.text directory

/-- A discovery fails for a reason of its own, or because a path cannot be looked up at all. -/
inductive DiscoveryFailure where
  | reported (error : DiscoveryError)
  | refused (error : FileError)
  deriving DecidableEq

namespace Discovery

def before (first second : Location) : Bool :=
  Path.joinNames first ≤ Path.joinNames second

def pageWays (files : List Location) : List Location :=
  (files.filter fun way =>
    (way.getLast?.map fun name => Route.isPageFile name.text).getD false).mergeSort before

def pagesOn (system : FileSystem) (tree : FileTree) (start : Location) (pagesDirectory : Path) :
    Except DiscoveryFailure (List Path) :=
  match system.isDirectory tree pagesDirectory with
  | .error error => .error (.refused error)
  | .ok false => .error (.reported (.missing pagesDirectory))
  | .ok true =>
    match system.walk tree pagesDirectory with
    | .error (directory, cause) => .error (.reported (.unlisted directory cause))
    | .ok files =>
      .ok ((pageWays files).map fun way =>
        (Path.ofLocation start).join (pagesDirectory.join ⟨.relative, way⟩))

def pages (tree : FileTree) (start : Location) (pagesDirectory : Path) :
    Except DiscoveryFailure (List Path) :=
  pagesOn (.plain start) tree start pagesDirectory

def ways (tree : FileTree) (base : Location) : List Location := pageWays (files tree base)

/-- On a plain system one look at the end of the path decides. -/
theorem pages_eq (tree : FileTree) (start : Location) (pagesDirectory : Path) :
    pages tree start pagesDirectory =
      match tree.probe start pagesDirectory with
      | .error error => .error (.refused error)
      | .ok (some (base, .directory)) =>
        match blocked? tree base with
        | some way => .error (.reported (.unlisted (walkText pagesDirectory way) .denied))
        | none =>
          .ok ((ways tree base).map fun way =>
            (Path.ofLocation start).join (pagesDirectory.join ⟨.relative, way⟩))
      | .ok _ => .error (.reported (.missing pagesDirectory)) := by
  simp only [pages, pagesOn, FileSystem.plain, FileTree.isDirectory, walk]
  cases tree.probe start pagesDirectory with
  | error error => rfl
  | ok found =>
    cases found with
    | none => rfl
    | some stands =>
      obtain ⟨base, entry⟩ := stands
      cases entry with
      | file content => rfl
      | link target => rfl
      | directory =>
        simp only [Except.map]
        cases blocked? tree base <;> rfl

end Discovery

end PageRoutes
