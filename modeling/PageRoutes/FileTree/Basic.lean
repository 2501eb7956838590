import PageRoutes.Path.Relative

/-! A tree of files, directories and symbolic links.

The tree is a list of entries by their location, the names on the way down from the root
directory, and no location occurs twice. The root itself is always a directory and has no
entry. The order of the list is the order in which a directory lists what it holds.
-/

set_option autoImplicit false

namespace PageRoutes

/-- The way down from the root directory, without links and double dots. -/
abbrev Location := List Name

def Path.ofLocation (location : Location) : Path := ⟨.root, location⟩

theorem Path.ofLocation_isAbsolute (location : Location) :
    (Path.ofLocation location).IsAbsolute := by
  simp [Path.ofLocation, Path.IsAbsolute]

instance contentDecidableEq : DecidableEq ByteArray := ByteArray.instDecidableEq

structure LinkTarget where
  path : Path
  /-- The path is written in a way that only a directory can have. -/
  isDirectory : Bool
  deriving DecidableEq

/-- A slash at the end of a path, or a dot behind it, asks for a directory. -/
def LinkTarget.ofString (text : String) : LinkTarget :=
  ⟨Path.ofString text,
    match text.toList.reverse with
    | '/' :: _ => true
    | '.' :: '/' :: _ => true
    | _ => false⟩

inductive Entry where
  | file (content : ByteArray)
  | directory
  | link (target : LinkTarget)
  deriving DecidableEq

def Entry.isDirectory : Entry → Bool
  | .directory => true
  | _ => false

structure FileTree where
  entries : List (Location × Entry)
  /-- Directories whose entries may not be listed. -/
  unlistable : List Location
  unique : (entries.map Prod.fst).Nodup

namespace FileTree

def empty : FileTree := ⟨[], [], List.nodup_nil⟩

def entryIn? (location : Location) : List (Location × Entry) → Option Entry
  | [] => none
  | (other, entry) :: rest => if other = location then some entry else entryIn? location rest

def get? (tree : FileTree) (location : Location) : Option Entry :=
  if location = [] then some .directory else entryIn? location tree.entries

/-- Replaces the entry of a location where it stands, else adds one at the end. -/
def placeEntry (location : Location) (entry : Entry) :
    List (Location × Entry) → List (Location × Entry)
  | [] => [(location, entry)]
  | (other, old) :: rest =>
    if other = location then (other, entry) :: rest
    else (other, old) :: placeEntry location entry rest

theorem mem_map_placeEntry {location other : Location} {entry : Entry}
    {entries : List (Location × Entry)}
    (member : other ∈ (placeEntry location entry entries).map Prod.fst) :
    other = location ∨ other ∈ entries.map Prod.fst := by
  induction entries with
  | nil => simpa [placeEntry] using member
  | cons first rest ih =>
    obtain ⟨key, old⟩ := first
    by_cases here : key = location
    · simp only [placeEntry, if_pos here] at member
      exact .inr member
    · simp only [placeEntry, if_neg here, List.map_cons, List.mem_cons] at member
      rcases member with same | below
      · exact .inr (by simp [same])
      · exact (ih below).imp_right fun found => List.mem_cons_of_mem _ found

theorem nodup_placeEntry (location : Location) (entry : Entry)
    {entries : List (Location × Entry)} (unique : (entries.map Prod.fst).Nodup) :
    ((placeEntry location entry entries).map Prod.fst).Nodup := by
  induction entries with
  | nil => simp [placeEntry]
  | cons first rest ih =>
    obtain ⟨key, old⟩ := first
    obtain ⟨fresh, others⟩ := List.nodup_cons.1 unique
    by_cases here : key = location
    · simpa [placeEntry, here] using unique
    · simp only [placeEntry, if_neg here, List.map_cons, List.nodup_cons]
      exact ⟨fun member => (mem_map_placeEntry member).elim here fresh, ih others⟩

def place (tree : FileTree) (location : Location) (entry : Entry) : FileTree :=
  { tree with
    entries := placeEntry location entry tree.entries
    unique := nodup_placeEntry location entry tree.unique }

def restrict (tree : FileTree) (keeps : Location → Bool) : FileTree :=
  { tree with
    entries := tree.entries.filter fun found => keeps found.1
    unique := tree.unique.sublist (List.filter_sublist.map Prod.fst) }

def erase (tree : FileTree) (location : Location) : FileTree :=
  tree.restrict fun other => other ≠ location

def eraseBelow (tree : FileTree) (location : Location) : FileTree :=
  tree.restrict fun other => !location.isPrefixOf other

def below (tree : FileTree) (location : Location) : List (Location × Entry) :=
  tree.entries.filterMap fun (other, entry) =>
    if location.isPrefixOf other && location.length < other.length then
      some (other.drop location.length, entry)
    else none

theorem entryIn?_placeEntry (location other : Location) (entry : Entry)
    (entries : List (Location × Entry)) :
    entryIn? other (placeEntry location entry entries) =
      if location = other then some entry else entryIn? other entries := by
  induction entries with
  | nil => rfl
  | cons first rest ih =>
    obtain ⟨key, old⟩ := first
    by_cases here : key = location
    · subst here
      by_cases same : key = other <;> simp [placeEntry, entryIn?, same]
    · by_cases same : key = other
      · subst same
        simp [placeEntry, entryIn?, here, Ne.symm here]
      · simp [placeEntry, entryIn?, here, same, ih]

theorem entryIn?_filter_ne (location other : Location) (entries : List (Location × Entry)) :
    entryIn? other (entries.filter fun found => found.1 ≠ location) =
      if location = other then none else entryIn? other entries := by
  induction entries with
  | nil => simp [entryIn?]
  | cons first rest ih =>
    obtain ⟨key, old⟩ := first
    by_cases here : key = location
    · subst here
      rw [List.filter_cons_of_neg (by simp), ih]
      by_cases same : key = other <;> simp [entryIn?, same]
    · rw [List.filter_cons_of_pos (by simpa using here)]
      by_cases same : key = other
      · subst same
        simp [entryIn?, Ne.symm here]
      · simp only [entryIn?, same, if_false, ih]

@[simp] theorem get?_place_self (tree : FileTree) (location : Location) (entry : Entry)
    (below : location ≠ []) : (tree.place location entry).get? location = some entry := by
  simp [get?, below, place, entryIn?_placeEntry]

theorem get?_place_of_ne (tree : FileTree) {location other : Location} (entry : Entry)
    (differs : location ≠ other) :
    (tree.place location entry).get? other = tree.get? other := by
  simp [get?, place, entryIn?_placeEntry, differs]

theorem get?_erase_self (tree : FileTree) (location : Location) (below : location ≠ []) :
    (tree.erase location).get? location = none := by
  unfold get? erase restrict
  rw [if_neg below, entryIn?_filter_ne, if_pos rfl]

theorem get?_erase_of_ne (tree : FileTree) {location other : Location}
    (differs : location ≠ other) : (tree.erase location).get? other = tree.get? other := by
  unfold get? erase restrict
  rw [entryIn?_filter_ne, if_neg differs]

end FileTree

end PageRoutes
