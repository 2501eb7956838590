import PageRoutes.FileTree.Locate

/-! Why a path cannot be followed.

Either it leads nowhere, or the path itself cannot be used: it is too long, a name in it or in the
target of a link is, or it holds a character that no path may hold. Only an unusable length cannot
be looked up at all; every other path has nothing at its end.
-/

set_option autoImplicit false

namespace PageRoutes

def Name.IsTooLong (name : Name) : Prop := FileTree.longestName < name.text.utf8ByteSize

instance (name : Name) : Decidable name.IsTooLong :=
  inferInstanceAs (Decidable (FileTree.longestName < name.text.utf8ByteSize))

namespace FileTree

/-- What keeps some names from being followed. -/
inductive Refusal (tree : FileTree) (names : List Name) : FileError → Prop where
  | nowhere : Refusal tree names .notFound
  | behindFile : Refusal tree names .notDirectory
  | windingLinks : Refusal tree names .tooManyLinks
  | longName {name : Name} : name ∈ names → name.IsTooLong → Refusal tree names .nameTooLong
  | longTarget {location : Location} {target : LinkTarget} {name : Name} :
      tree.get? location = some (.link target) → name ∈ target.path.names → name.IsTooLong →
      Refusal tree names .nameTooLong

variable {tree : FileTree} {start here : Location} {followLast : Bool} {links : Nat}
  {names rest : List Name} {path : Path} {error : FileError}

theorem Refusal.mono (refusal : Refusal tree rest error) (among : rest ⊆ names) :
    Refusal tree names error := by
  cases refusal with
  | nowhere => exact .nowhere
  | behindFile => exact .behindFile
  | windingLinks => exact .windingLinks
  | longName member long => exact .longName (among member) long
  | longTarget stands member long => exact .longTarget stands member long

/-- A long name that comes from the target of a link is the target's, not the path's. -/
theorem Refusal.of_target {location : Location} {target : LinkTarget}
    (refusal : Refusal tree (target.path.names ++ rest) error)
    (stands : tree.get? location = some (.link target)) : Refusal tree rest error := by
  cases refusal with
  | nowhere => exact .nowhere
  | behindFile => exact .behindFile
  | windingLinks => exact .windingLinks
  | longName member long =>
    rcases List.mem_append.1 member with inside | behind
    · exact .longTarget stands inside long
    · exact .longName behind long
  | longTarget other member long => exact .longTarget other member long

theorem refusal_of_follow
    {onLink : Location → LinkTarget → List Name → Except FileError Target}
    (onwards : ∀ here name target rest, tree.get? (here ++ [name]) = some (.link target) →
      onLink here target rest = .error error → Refusal tree rest error)
    (failed : follow tree followLast onLink here names = .error error) :
    Refusal tree names error := by
  induction names generalizing here with
  | nil => cases failed
  | cons name rest ih =>
    rw [follow] at failed
    split at failed
    · exact (ih failed).mono (List.subset_cons_self name rest)
    · split at failed
      · rename_i long
        cases failed
        exact .longName List.mem_cons_self long
      · split at failed
        · split at failed <;> cases failed
          exact .nowhere
        · exact (ih failed).mono (List.subset_cons_self name rest)
        · split at failed <;> cases failed
          exact .behindFile
        · rename_i target stands
          split at failed
          · cases failed
          · have behind := onwards here name target rest stands failed
            exact behind.mono (List.subset_cons_self name rest)

theorem refusal_of_onlyDirectory {goal : Target} (failed : tree.onlyDirectory goal = .error error) :
    Refusal tree names error := by
  unfold onlyDirectory at failed
  split at failed
  · cases failed
    exact .nowhere
  · split at failed <;> cases failed
    exact .behindFile

theorem refusal_of_followLinks
    (failed : followLinks tree followLast links here names = .error error) :
    Refusal tree names error := by
  induction links generalizing here names with
  | zero =>
    refine refusal_of_follow (fun here name target rest _ refused => ?_) failed
    cases refused
    exact .windingLinks
  | succ links ih =>
    -- Behind a link come the names of its target, and only then those of the path itself.
    refine refusal_of_follow (fun here name target rest stands refused => ?_) failed
    simp only at refused
    split at refused
    · cases reached : followLinks tree followLast links
        (if target.path.IsAbsolute then [] else here) (target.path.names ++ rest) with
      | error cause =>
        rw [reached] at refused
        cases refused
        exact (ih reached).of_target stands
      | ok goal =>
        rw [reached] at refused
        exact refusal_of_onlyDirectory refused
    · exact (ih refused).of_target stands

theorem Refusal.isRefusal (refusal : Refusal tree names error) : error.isRefusal = true := by
  cases refusal <;> rfl

theorem locate_of_hasNul (tree : FileTree) (start : Location) (followLast : Bool)
    (held : hasNul path = true) : tree.locate start followLast path = .error .nulCharacter :=
  if_pos held

/-- Only a character that no path may hold makes a path unusable as such. -/
theorem isRefusal_of_locate (failed : tree.locate start followLast path = .error error) :
    error.isRefusal = !hasNul path := by
  unfold locate at failed
  split at failed
  · rename_i held
    cases failed
    rw [held]
    rfl
  · rename_i clean
    rw [Bool.not_eq_true] at clean
    rw [clean]
    split at failed
    · cases failed
      rfl
    · exact (refusal_of_followLinks failed).isRefusal

theorem long_of_locate (short : ∀ name ∈ path.names, ¬ name.IsTooLong)
    (long : tree.locate start followLast path = .error .nameTooLong) :
    longestPath < path.toString.utf8ByteSize ∨
      ∃ location target, tree.get? location = some (.link target) ∧
        ∃ name ∈ target.path.names, name.IsTooLong := by
  unfold locate at long
  split at long
  · cases long
  · split at long
    · rename_i whole
      exact .inl whole
    · cases refusal_of_followLinks long with
      | longName member tooLong => exact absurd tooLong (short _ member)
      | longTarget stands member tooLong => exact .inr ⟨_, _, stands, _, member, tooLong⟩

/-- Only a name or a path that is too long cannot be looked up at all. -/
theorem probe_eq_error_iff :
    tree.probe start path = .error error ↔
      error = .nameTooLong ∧ tree.locate start true path = .error .nameTooLong := by
  unfold probe
  split
  · rename_i located
    simp [located]
  · rename_i located
    simp [located]
  · rename_i long
    simp [long, eq_comm]
  · rename_i other short refused
    have differs : other ≠ .nameTooLong := short
    simp [refused, differs]

end FileTree

end PageRoutes
