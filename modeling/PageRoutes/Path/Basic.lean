/-! Slash-separated file paths.

A path is an anchor and a list of names. Reading a text drops empty components and
single dots, so a path has one written form; a double dot is kept, because what it
means depends on the links of a file system. Exactly two leading slashes are an
anchor of their own.
-/

set_option autoImplicit false

namespace PageRoutes

/-- A component of a path: not empty, not a single dot, and without a slash. -/
structure Name where
  text : String
  nonempty : text ≠ ""
  not_dot : text ≠ "."
  no_slash : '/' ∉ text.toList
  deriving DecidableEq

namespace Name

def ofString? (text : String) : Option Name :=
  if valid : text ≠ "" ∧ text ≠ "." ∧ '/' ∉ text.toList then
    some ⟨text, valid.1, valid.2.1, valid.2.2⟩
  else none

def up : Name := ⟨"..", by decide, by decide, by decide⟩

theorem eq_of_text {a b : Name} (same : a.text = b.text) : a = b := by
  cases a; cases b; simp_all

@[simp] theorem ofString?_text (name : Name) : ofString? name.text = some name := by
  simp [ofString?, name.nonempty, name.not_dot, name.no_slash]

theorem text_of_ofString? {text : String} {name : Name} (found : ofString? text = some name) :
    name.text = text := by
  unfold ofString? at found
  split at found
  · cases found; rfl
  · cases found

end Name

/-- How a path starts: anywhere, at the root, or at the root written with two slashes. -/
inductive Anchor where
  | relative
  | root
  | doubleRoot
  deriving DecidableEq

def Anchor.text : Anchor → String
  | .relative => ""
  | .root => "/"
  | .doubleRoot => "//"

structure Path where
  anchor : Anchor
  names : List Name
  deriving DecidableEq

namespace Path

/-- One leading slash or three and more start at the root. -/
def anchorOf : List Char → Anchor
  | '/' :: '/' :: '/' :: _ => .root
  | '/' :: '/' :: _ => .doubleRoot
  | '/' :: _ => .root
  | _ => .relative

def namesOf (text : List Char) : List Name :=
  (text.splitOn '/').filterMap fun piece => Name.ofString? (String.ofList piece)

def ofString (text : String) : Path :=
  ⟨anchorOf text.toList, namesOf text.toList⟩

def joinNames (names : List Name) : String :=
  "/".intercalate (names.map Name.text)

/-- The written form; the path without anchor and names is a single dot. -/
def toString (path : Path) : String :=
  match path.anchor, path.names with
  | .relative, [] => "."
  | anchor, names => anchor.text ++ joinNames names

instance : ToString Path := ⟨toString⟩

def IsAbsolute (path : Path) : Prop := path.anchor ≠ .relative

instance (path : Path) : Decidable path.IsAbsolute :=
  inferInstanceAs (Decidable (path.anchor ≠ .relative))

def root : Path := ⟨.root, []⟩

/-- The second path as seen from the first; an absolute one is not seen from anywhere. -/
def join (base path : Path) : Path :=
  if path.anchor = .relative then ⟨base.anchor, base.names ++ path.names⟩ else path

def child (base : Path) (name : Name) : Path :=
  ⟨base.anchor, base.names ++ [name]⟩

/-- The path without its last name; at the root and at the empty path nothing changes. -/
def parent (path : Path) : Path :=
  ⟨path.anchor, path.names.dropLast⟩

def lastName? (path : Path) : Option Name := path.names.getLast?

def fileName (path : Path) : String :=
  (path.lastName?.map Name.text).getD ""

/-- Whether `base` is the path itself or lies above it, component by component. -/
def IsUnder (path base : Path) : Prop :=
  base.anchor = path.anchor ∧ base.names <+: path.names

instance (path base : Path) : Decidable (path.IsUnder base) :=
  inferInstanceAs (Decidable (_ ∧ _))

@[simp] theorem names_child (base : Path) (name : Name) :
    (base.child name).names = base.names ++ [name] := rfl

@[simp] theorem parent_child (base : Path) (name : Name) : (base.child name).parent = base := by
  simp [parent, child]

@[simp] theorem lastName?_child (base : Path) (name : Name) :
    (base.child name).lastName? = some name := by
  simp [lastName?, child]

@[simp] theorem fileName_child (base : Path) (name : Name) :
    (base.child name).fileName = name.text := by
  simp [fileName]

theorem join_isAbsolute {base path : Path} (absolute : base.IsAbsolute) :
    (base.join path).IsAbsolute := by
  unfold join
  split
  · exact absolute
  · assumption

theorem isUnder_refl (path : Path) : path.IsUnder path := ⟨rfl, List.prefix_refl _⟩

theorem child_isUnder (path : Path) (name : Name) : (path.child name).IsUnder path :=
  ⟨rfl, List.prefix_append _ _⟩

end Path

abbrev AbsolutePath := { path : Path // path.IsAbsolute }

end PageRoutes
