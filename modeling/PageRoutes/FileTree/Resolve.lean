import PageRoutes.FileTree.Locate
import PageRoutes.Path.Relative

/-! A path made absolute, without links and double dots.

The path is written anew name by name. A link is replaced by what its target comes to, and a
double dot takes back what was written last, which by then is no link. A name that leads nowhere is
kept. So is everything behind a link that leads into itself, and such a path is refused in the end.
-/

set_option autoImplicit false

namespace PageRoutes

def Path.above (path : Path) : Path :=
  if path = ⟨.relative, []⟩ ∨ path.lastName? = some Name.up then path.child Name.up
  else path.parent

namespace FileTree

/-- The link at the end of a path. What cannot be looked at is no link. -/
def linkAt? (tree : FileTree) (start : Location) (path : Path) :
    Except FileError (Option LinkTarget) :=
  match tree.locate start false path with
  | .error error => if error.isRefusal then .ok none else .error error
  | .ok (.free _ _) => .ok none
  | .ok (.found location) =>
    match tree.get? location with
    | some (.link target) => .ok (some target)
    | _ => .ok none

/-- What the links met so far come to, the newest first; nothing is known of a link whose target
is still being written anew. -/
abbrev LinkEnds := List (Path × Option Path)

/-- A path written anew, with the links met; it is not whole if a link led into itself. -/
structure Rewritten where
  path : Path
  ends : LinkEnds
  whole : Bool

/-- Writes names anew behind a path; `onTarget` takes over at the target of a link. -/
def rewrite (tree : FileTree) (start : Location)
    (onTarget : Path → LinkEnds → List Name → Except FileError Rewritten) (path : Path)
    (ends : LinkEnds) : List Name → Except FileError Rewritten
  | [] => .ok ⟨path, ends, true⟩
  | name :: rest =>
    if name = Name.up then rewrite tree start onTarget path.above ends rest
    else
      let next := path.child name
      match tree.linkAt? start next with
      | .error error => .error error
      | .ok none => rewrite tree start onTarget next ends rest
      | .ok (some target) =>
        match ends.lookup next with
        | some (some reached) => rewrite tree start onTarget reached ends rest
        | some none => .ok ⟨next.join ⟨.relative, rest⟩, ends, false⟩
        | none =>
          let origin := if target.path.IsAbsolute then Path.root else path
          match onTarget origin ((next, none) :: ends) target.path.names with
          | .error error => .error error
          | .ok reached =>
            if reached.whole then
              rewrite tree start onTarget reached.path ((next, some reached.path) :: reached.ends)
                rest
            else .ok { reached with path := reached.path.join ⟨.relative, rest⟩ }

def nestedLinks : Nat := 1000

def rewriteLinks (tree : FileTree) (start : Location) :
    Nat → Path → LinkEnds → List Name → Except FileError Rewritten
  | 0 => rewrite tree start fun _ _ _ => .error .linkLoop
  | links + 1 => rewrite tree start (rewriteLinks tree start links)

def resolve (tree : FileTree) (start : Location) (path : Path) : Except FileError AbsolutePath :=
  let origin : Path := if path.IsAbsolute then Path.root else ⟨.relative, []⟩
  match tree.rewriteLinks start nestedLinks origin [] path.names with
  | .error error => .error error
  | .ok rewritten =>
    let whole := Path.resolve (Path.ofLocation start) rewritten.path
    match tree.locate start true whole with
    | .error .tooManyLinks => .error .linkLoop
    | .error .nulCharacter => .error .nulCharacter
    | _ => .ok ⟨whole, Path.join_isAbsolute (Path.ofLocation_isAbsolute start)⟩

end FileTree

end PageRoutes
