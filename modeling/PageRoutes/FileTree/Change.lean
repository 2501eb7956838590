import PageRoutes.FileTree.Locate

/-! Changes of a file tree, each refused for a stated cause. -/

set_option autoImplicit false

namespace PageRoutes

namespace FileTree

/-- Creates one directory where the name is free; a link that leads nowhere takes the name. -/
def makeDirectory (tree : FileTree) (start : Location) (path : Path) :
    Except FileError FileTree :=
  match tree.locate start false path with
  | .error error => .error error
  | .ok (.found _) => .error .alreadyExists
  | .ok (.free directory name) => .ok (tree.place (directory ++ [name]) .directory)

/-- Writes a whole file, through links, and creates it where the name is free. -/
def writeFile (tree : FileTree) (start : Location) (path : Path) (content : ByteArray) :
    Except FileError FileTree :=
  match tree.locate start true path with
  | .error error => .error error
  | .ok (.free directory name) => .ok (tree.place (directory ++ [name]) (.file content))
  | .ok (.found location) =>
    match tree.get? location with
    | some .directory => .error .isDirectory
    | _ => .ok (tree.place location (.file content))

def makeLink (tree : FileTree) (start : Location) (path : Path) (target : LinkTarget) :
    Except FileError FileTree :=
  match tree.locate start false path with
  | .error error => .error error
  | .ok (.found _) => .error .alreadyExists
  | .ok (.free directory name) => .ok (tree.place (directory ++ [name]) (.link target))

def unlink (tree : FileTree) (start : Location) (path : Path) : Except FileError FileTree :=
  match tree.locate start false path with
  | .error error => .error error
  | .ok (.free _ _) => .error .notFound
  | .ok (.found location) =>
    match tree.get? location with
    | some .directory => .error .isDirectory
    | _ => .ok (tree.erase location)

def remove (tree : FileTree) (start : Location) (path : Path) : Except FileError FileTree :=
  match tree.locate start false path with
  | .error error => .error error
  | .ok (.free _ _) => .error .notFound
  | .ok (.found location) => .ok (tree.eraseBelow location)

/-- The location that takes the place of a moved file: one that is free or no directory. -/
def replaceable (tree : FileTree) : Target → Except FileError Location
  | .free directory name => .ok (directory ++ [name])
  | .found location =>
    match tree.get? location with
    | some .directory => .error .isDirectory
    | _ => .ok location

/-- Moves a file or a link over the place of another, in one step. -/
def replace (tree : FileTree) (start : Location) (source target : Path) :
    Except FileError FileTree :=
  if target.lastName? = some Name.up ∨ target.lastName? = none then .error .busy
  else
    match tree.locate start false source, tree.locate start false target with
    | .error error, _ => .error error
    | _, .error error => .error error
    | .ok (.free _ _), _ => .error .notFound
    | .ok (.found origin), .ok goal =>
      match tree.get? origin, tree.replaceable goal with
      | some entry, .ok location =>
        -- The old entry goes and the new one comes in the same step.
        if entry.isDirectory then .error .isDirectory
        else .ok ((tree.erase origin).place location entry)
      | none, _ => .error .notFound
      | _, .error error => .error error

/-- Whether a failure means that a directory is there already. -/
def toleratedBy (tree : FileTree) (start : Location) (path : Path) (error : FileError) :
    Except FileError Unit :=
  if error.isRefusal then
    match tree.isDirectory start path with
    | .ok true => .ok ()
    | .ok false => .error error
    | .error worse => .error worse
  else .error error

/-- A sequence of changes: how it ended, the tree it left, and every tree on the way. -/
structure Run (α : Type) where
  outcome : Except FileError α
  tree : FileTree
  passed : List FileTree

def Run.ofChange (tree : FileTree) : Except FileError FileTree → Run Unit
  | .ok changed => ⟨.ok (), changed, [changed]⟩
  | .error error => ⟨.error error, tree, []⟩

def Run.andThen (first : Run Unit) (next : FileTree → Run Unit) : Run Unit :=
  match first.outcome with
  | .error error => ⟨.error error, first.tree, first.passed⟩
  | .ok () =>
    let second := next first.tree
    ⟨second.outcome, second.tree, first.passed ++ second.passed⟩

/-- Makes a directory and those above it that are missing, the uppermost first. The names of
the path come innermost first. -/
def makeDirectoriesUp (tree : FileTree) (start : Location) (anchor : Anchor) :
    List Name → Run Unit
  | [] =>
    let path : Path := ⟨anchor, []⟩
    match tree.makeDirectory start path with
    | .ok changed => ⟨.ok (), changed, [changed]⟩
    | .error error => ⟨tree.toleratedBy start path error, tree, []⟩
  | name :: above =>
    let path : Path := ⟨anchor, (name :: above).reverse⟩
    match tree.makeDirectory start path with
    | .ok changed => ⟨.ok (), changed, [changed]⟩
    | .error .notFound =>
      let upper := makeDirectoriesUp tree start anchor above
      match upper.outcome with
      | .error error => ⟨.error error, upper.tree, upper.passed⟩
      | .ok () =>
        match upper.tree.makeDirectory start path with
        | .ok changed => ⟨.ok (), changed, upper.passed ++ [changed]⟩
        | .error .notFound => ⟨.error .notFound, upper.tree, upper.passed⟩
        | .error error =>
          ⟨upper.tree.toleratedBy start path error, upper.tree, upper.passed⟩
    | .error error => ⟨tree.toleratedBy start path error, tree, []⟩

def makeDirectories (tree : FileTree) (start : Location) (path : Path) : Run Unit :=
  makeDirectoriesUp tree start path.anchor path.names.reverse

end FileTree

inductive Edit where
  | file (path : Path) (content : ByteArray)
  | directory (path : Path)
  | link (path : Path) (target : LinkTarget)
  | remove (path : Path)
  deriving DecidableEq

/-- An edit that is refused leaves the tree as it is; missing directories are made first. -/
def FileTree.edit (tree : FileTree) (start : Location) : Edit → FileTree
  | .file path content =>
    let prepared := (tree.makeDirectories start path.parent).tree
    ((prepared.writeFile start path content).toOption).getD prepared
  | .directory path => (tree.makeDirectories start path).tree
  | .link path target =>
    let prepared := (tree.makeDirectories start path.parent).tree
    ((prepared.makeLink start path target).toOption).getD prepared
  | .remove path => ((tree.remove start path).toOption).getD tree

end PageRoutes
