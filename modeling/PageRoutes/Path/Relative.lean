import PageRoutes.Path.Basic

/-! Paths relative to a directory, decided from their text alone.

Both paths are made absolute and collapsed: a double dot takes the name before it
away, and at the root it does nothing. What the two then share is left out, and
one double dot per remaining name of the start leads back up.
-/

set_option autoImplicit false

namespace PageRoutes.Path

/-- One component on the way down: a double dot leaves the directory reached so far. -/
def descend (reached : List Name) (name : Name) : List Name :=
  if name = Name.up then reached.dropLast else reached ++ [name]

def collapse (names : List Name) : List Name :=
  names.foldl descend []

def absoluteNames (workingDirectory path : Path) : List Name :=
  collapse (workingDirectory.join path).names

def steps : List Name → List Name → List Name
  | a :: start, b :: target =>
    if a = b then steps start target
    else List.replicate (start.length + 1) Name.up ++ b :: target
  | start, target => List.replicate start.length Name.up ++ target

def relativeNames (workingDirectory target start : Path) : List Name :=
  steps (absoluteNames workingDirectory start) (absoluteNames workingDirectory target)

/-- The written form of a relative way; no step at all is a single dot. -/
def relativeText (workingDirectory target start : Path) : String :=
  toString ⟨.relative, relativeNames workingDirectory target start⟩

def resolve (workingDirectory path : Path) : Path :=
  ⟨(workingDirectory.join path).anchor, absoluteNames workingDirectory path⟩

theorem collapse_append (first second : List Name) :
    collapse (first ++ second) = second.foldl descend (collapse first) := by
  simp [collapse]

theorem foldl_descend_of_no_up (names : List Name) (free : ∀ name ∈ names, name ≠ Name.up)
    (reached : List Name) : names.foldl descend reached = reached ++ names := by
  induction names generalizing reached with
  | nil => simp
  | cons name rest ih =>
    have head : name ≠ Name.up := free name (by simp)
    rw [List.foldl_cons, ih (fun other member => free other (List.mem_cons_of_mem _ member))]
    simp [descend, head]

theorem collapse_of_no_up (names : List Name) (free : ∀ name ∈ names, name ≠ Name.up) :
    collapse names = names := by
  simpa [collapse] using foldl_descend_of_no_up names free []

theorem up_not_mem_foldl_descend (names reached : List Name) (free : Name.up ∉ reached) :
    Name.up ∉ names.foldl descend reached := by
  induction names generalizing reached with
  | nil => exact free
  | cons name rest ih =>
    rw [List.foldl_cons]
    apply ih
    unfold descend
    split
    · exact fun member => free (List.dropLast_subset _ member)
    · rename_i different
      simp [free, Ne.symm different]

theorem up_not_mem_collapse (names : List Name) : Name.up ∉ collapse names :=
  up_not_mem_foldl_descend names [] (by simp)

end PageRoutes.Path
