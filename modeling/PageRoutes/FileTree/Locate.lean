import PageRoutes.FileTree.Basic
import PageRoutes.Text.Quoted

/-! From a path to a location.

A path is followed name by name. A double dot leads to the directory above, a link leads
to its target, and what stands before another name has to be a directory. Only so many
links are followed. The last name may be missing, so that something can be created there.
-/

set_option autoImplicit false

namespace PageRoutes

inductive FileError where
  | notFound
  | alreadyExists
  | notDirectory
  | isDirectory
  | tooManyLinks
  | nameTooLong
  | busy
  | denied
  | other (number : Nat) (description : String)
  /-- A path with a character that no path may hold. -/
  | nulCharacter
  /-- A text or a path with a character that has no bytes. -/
  | unencodable
  /-- Links that lead into themselves, on the way of a path that is made absolute. -/
  | linkLoop
  deriving DecidableEq

namespace FileError

/-- Whether the system has refused a call, and not the call itself what it was given. -/
def isRefusal : FileError → Bool
  | .nulCharacter | .unencodable | .linkLoop => false
  | _ => true

def number : FileError → Nat
  | .notFound => 2
  | .alreadyExists => 17
  | .notDirectory => 20
  | .isDirectory => 21
  | .tooManyLinks => 40
  | .nameTooLong => 36
  | .busy => 16
  | .denied => 13
  | .other number _ => number
  | .nulCharacter | .unencodable | .linkLoop => 22

def description : FileError → String
  | .notFound => "No such file or directory"
  | .alreadyExists => "File exists"
  | .notDirectory => "Not a directory"
  | .isDirectory => "Is a directory"
  | .tooManyLinks => "Too many levels of symbolic links"
  | .nameTooLong => "File name too long"
  | .busy => "Device or resource busy"
  | .denied => "Permission denied"
  | .other _ description => description
  | .nulCharacter => "embedded null byte"
  | .unencodable => "surrogates not allowed"
  | .linkLoop => "Symlink loop"

def text (error : FileError) (path : String) : String :=
  if error.isRefusal then
    "[Errno " ++ ToString.toString error.number ++ "] " ++ error.description ++ ": " ++
      Text.quoted path
  else error.description

end FileError

namespace FileTree

/-- Where a path leads: to something, or to a free name in a directory. -/
inductive Target where
  | found (location : Location)
  | free (directory : Location) (name : Name)
  deriving DecidableEq

/-- The number of bytes that a name may have. -/
def longestName : Nat := 255

def longestPath : Nat := 4095

def linksFollowed : Nat := 40

/-- Follows names from a directory; `onLink` takes over at a link that has to be followed. -/
def follow (tree : FileTree) (followLast : Bool)
    (onLink : Location → LinkTarget → List Name → Except FileError Target) (here : Location) :
    List Name → Except FileError Target
  | [] => .ok (.found here)
  | name :: rest =>
    -- Behind a link this leads to the directory above its target, not above the link.
    if name = Name.up then follow tree followLast onLink here.dropLast rest
    else if longestName < name.text.utf8ByteSize then .error .nameTooLong
    else
      match tree.get? (here ++ [name]) with
      | none => if rest = [] then .ok (.free here name) else .error .notFound
      | some .directory => follow tree followLast onLink (here ++ [name]) rest
      | some (.file _) =>
        if rest = [] then .ok (.found (here ++ [name])) else .error .notDirectory
      | some (.link target) =>
        if rest = [] ∧ followLast = false then .ok (.found (here ++ [name]))
        else onLink here target rest

def onlyDirectory (tree : FileTree) (target : Target) : Except FileError Target :=
  match target with
  | .free _ _ => .error .notFound
  | .found location =>
    match tree.get? location with
    | some .directory => .ok target
    | _ => .error .notDirectory

def followLinks (tree : FileTree) (followLast : Bool) :
    Nat → Location → List Name → Except FileError Target
  | 0 => follow tree followLast fun _ _ _ => .error .tooManyLinks
  | links + 1 => follow tree followLast fun here target rest =>
    let reached := followLinks tree followLast links (if target.path.IsAbsolute then [] else here)
      (target.path.names ++ rest)
    -- In front of other names it has to be a directory in any case.
    if target.isDirectory && rest.isEmpty then reached.bind tree.onlyDirectory else reached

def hasNul (path : Path) : Bool :=
  path.names.any fun name => name.text.toList.contains '\x00'

def locate (tree : FileTree) (start : Location) (followLast : Bool) (path : Path) :
    Except FileError Target :=
  if hasNul path then .error .nulCharacter
  else if longestPath < path.toString.utf8ByteSize then .error .nameTooLong
  else
    followLinks tree followLast linksFollowed (if path.IsAbsolute then [] else start) path.names

/-- What stands at the end of a path. A path that leads nowhere has nothing at its end; only
a name or a path that is too long cannot be looked up at all. -/
def probe (tree : FileTree) (start : Location) (path : Path) :
    Except FileError (Option (Location × Entry)) :=
  match tree.locate start true path with
  | .ok (.found location) =>
    .ok ((tree.get? location).map fun entry => (location, entry))
  | .ok (.free _ _) => .ok none
  | .error .nameTooLong => .error .nameTooLong
  | .error _ => .ok none

def isDirectory (tree : FileTree) (start : Location) (path : Path) : Except FileError Bool :=
  (tree.probe start path).map fun found =>
    match found with
    | some (_, .directory) => true
    | _ => false

def isFile (tree : FileTree) (start : Location) (path : Path) : Except FileError Bool :=
  (tree.probe start path).map fun found =>
    match found with
    | some (_, .file _) => true
    | _ => false

def isPresent (tree : FileTree) (start : Location) (path : Path) : Except FileError Bool :=
  (tree.probe start path).map Option.isSome

def content (tree : FileTree) (start : Location) (path : Path) : Except FileError ByteArray :=
  match tree.locate start true path with
  | .error error => .error error
  | .ok (.free _ _) => .error .notFound
  | .ok (.found location) =>
    match tree.get? location with
    | some (.file content) => .ok content
    | some .directory => .error .isDirectory
    | _ => .error .notFound

end FileTree

end PageRoutes
