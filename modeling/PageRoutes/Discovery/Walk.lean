import PageRoutes.FileTree.Locate

/-! The walk through a directory of pages.

Directories are visited from the top down, without entering links and skipped directories. Every
visited directory has to be listed, and one that cannot be ends the walk.
-/

set_option autoImplicit false

namespace PageRoutes.Discovery

def skippedDirectories : List String := ["node_modules", "__pycache__"]

/-- Whether the way from a directory leads through real directories that are not skipped. -/
def visits (tree : FileTree) (here : Location) : Location → Bool
  | [] => true
  | name :: rest =>
    !skippedDirectories.contains name.text &&
      ((tree.get? (here ++ [name])).map Entry.isDirectory).getD false &&
      visits tree (here ++ [name]) rest

def leadsToDirectory (tree : FileTree) (location : Location) : Bool :=
  match tree.get? location, tree.isDirectory [] (Path.ofLocation location) with
  | some .directory, _ => true
  | some (.link _), .ok true => true
  | _, _ => false

/-- The ways to the files that the walk comes upon. A link to a directory is a directory here,
although it is not entered. -/
def files (tree : FileTree) (base : Location) : List Location :=
  ((tree.below base).map Prod.fst).filter fun way =>
    visits tree base way.dropLast && !leadsToDirectory tree (base ++ way)

def blocked? (tree : FileTree) (base : Location) : Option Location :=
  ([] :: (tree.below base).map Prod.fst).find? fun way =>
    visits tree base way && tree.unlistable.contains (base ++ way)

def walkText (pagesDirectory : Path) (way : Location) : String :=
  let top := pagesDirectory.toString
  if way = [] then top
  else if pagesDirectory.IsAbsolute ∧ pagesDirectory.names = [] then top ++ Path.joinNames way
  else top ++ "/" ++ Path.joinNames way

def walk (tree : FileTree) (start : Location) (pagesDirectory : Path) :
    Except (String × FileError) (List Location) :=
  match tree.probe start pagesDirectory with
  | .ok (some (base, .directory)) =>
    match blocked? tree base with
    | some way => .error (walkText pagesDirectory way, .denied)
    | none => .ok (files tree base)
  | _ => .ok []

end PageRoutes.Discovery
