import PageRoutes.FileTree.Change

/-! The ways of a file tree.

Following names is a chain of single steps: up, down into a directory, through a link, or onto
the last name. The steps say everything about a way that arrives, so that facts about where
paths lead are inductions over them.
-/

set_option autoImplicit false

namespace PageRoutes

theorem eq_ok_of_toOption {ε α : Type} {outcome : Except ε α} {value : α}
    (found : outcome.toOption = some value) : outcome = .ok value := by
  cases outcome with
  | error error => cases found
  | ok other =>
    cases found
    rfl

namespace FileTree

/-- The names lead from a directory to a goal, through at most so many links. -/
inductive Leads (tree : FileTree) (followLast : Bool) :
    Nat → Location → List Name → Target → Prop where
  | arrived {links : Nat} {here : Location} : Leads tree followLast links here [] (.found here)
  | up {links : Nat} {here : Location} {rest : List Name} {goal : Target} :
      Leads tree followLast links here.dropLast rest goal →
      Leads tree followLast links here (Name.up :: rest) goal
  | free {links : Nat} {here : Location} {name : Name} :
      name ≠ Name.up → name.text.utf8ByteSize ≤ longestName →
      tree.get? (here ++ [name]) = none →
      Leads tree followLast links here [name] (.free here name)
  | down {links : Nat} {here : Location} {name : Name} {rest : List Name} {goal : Target} :
      name ≠ Name.up → name.text.utf8ByteSize ≤ longestName →
      tree.get? (here ++ [name]) = some .directory →
      Leads tree followLast links (here ++ [name]) rest goal →
      Leads tree followLast links here (name :: rest) goal
  | file {links : Nat} {here : Location} {name : Name} {content : ByteArray} :
      name ≠ Name.up → name.text.utf8ByteSize ≤ longestName →
      tree.get? (here ++ [name]) = some (.file content) →
      Leads tree followLast links here [name] (.found (here ++ [name]))
  | link {links : Nat} {here : Location} {name : Name} {target : LinkTarget} :
      name ≠ Name.up → name.text.utf8ByteSize ≤ longestName →
      tree.get? (here ++ [name]) = some (.link target) → followLast = false →
      Leads tree followLast links here [name] (.found (here ++ [name]))
  | through {links : Nat} {here : Location} {name : Name} {rest : List Name} {goal : Target}
      {target : LinkTarget} :
      name ≠ Name.up → name.text.utf8ByteSize ≤ longestName →
      tree.get? (here ++ [name]) = some (.link target) → (rest = [] → followLast = true) →
      (target.isDirectory = true → rest = [] → tree.onlyDirectory goal = .ok goal) →
      Leads tree followLast links (if target.path.IsAbsolute then [] else here)
        (target.path.names ++ rest) goal →
      Leads tree followLast (links + 1) here (name :: rest) goal

theorem onlyDirectory_eq_ok {tree : FileTree} {target passed : Target}
    (only : tree.onlyDirectory target = .ok passed) : target = passed := by
  unfold onlyDirectory at only
  split at only
  · cases only
  · split at only
    · exact Except.ok.inj only
    · cases only

theorem leads_of_follow {tree : FileTree} {followLast : Bool} {links : Nat} {goal : Target}
    {onLink : Location → LinkTarget → List Name → Except FileError Target}
    (through : ∀ here name target rest, name ≠ Name.up → name.text.utf8ByteSize ≤ longestName →
      tree.get? (here ++ [name]) = some (.link target) → (rest = [] → followLast = true) →
      onLink here target rest = .ok goal → Leads tree followLast links here (name :: rest) goal)
    {here : Location} {names : List Name}
    (followed : follow tree followLast onLink here names = .ok goal) :
    Leads tree followLast links here names goal := by
  induction names generalizing here with
  | nil =>
    cases followed
    exact .arrived
  | cons name rest ih =>
    rw [follow] at followed
    split at followed
    · rename_i up
      subst up
      exact .up (ih followed)
    · rename_i down
      split at followed
      · cases followed
      · rename_i short
        have fits := Nat.le_of_not_lt short
        split at followed
        · rename_i stands
          split at followed
          · rename_i last
            cases followed
            subst last
            exact .free down fits stands
          · cases followed
        · rename_i stands
          exact .down down fits stands (ih followed)
        · rename_i content stands
          split at followed
          · rename_i last
            cases followed
            subst last
            exact .file down fits stands
          · cases followed
        · rename_i target stands
          split at followed
          · rename_i last
            cases followed
            obtain ⟨rfl, kept⟩ := last
            exact .link down fits stands kept
          · rename_i onwards
            refine through here name target rest down fits stands (fun last => ?_) followed
            rw [not_and, Bool.not_eq_false] at onwards
            exact onwards last

theorem leads_of_followLinks {tree : FileTree} {followLast : Bool} {links : Nat}
    {here : Location} {names : List Name} {goal : Target}
    (followed : followLinks tree followLast links here names = .ok goal) :
    Leads tree followLast links here names goal := by
  -- On the links that may still be followed; with none left a link is refused.
  induction links generalizing here names with
  | zero =>
    refine leads_of_follow (fun here name target rest _ _ _ _ refused => ?_) followed
    cases refused
  | succ links ih =>
    refine leads_of_follow (fun here name target rest down fits stands last passed => ?_) followed
    simp only at passed
    split at passed
    · cases reached : followLinks tree followLast links
        (if target.path.IsAbsolute then [] else here) (target.path.names ++ rest) with
      | error error =>
        rw [reached] at passed
        cases passed
      | ok found =>
        rw [reached] at passed
        have same := onlyDirectory_eq_ok passed
        subst same
        exact .through down fits stands last (fun _ _ => passed) (ih reached)
    · rename_i any
      refine .through down fits stands last (fun asked none => ?_) (ih passed)
      simp [asked, none] at any

theorem Leads.followLinks {tree : FileTree} {followLast : Bool} {links : Nat} {here : Location}
    {names : List Name} {goal : Target} (leads : Leads tree followLast links here names goal) :
    followLinks tree followLast links here names = .ok goal := by
  induction leads with
  | @arrived links here => cases links <;> rfl
  | @up links here rest goal _ ih =>
    cases links <;>
    · rw [FileTree.followLinks, follow, if_pos rfl]
      exact ih
  | @free links here name down fits stands =>
    cases links <;>
    · rw [FileTree.followLinks, follow, if_neg down, if_neg (Nat.not_lt.2 fits), stands]
      rfl
  | @down links here name rest goal down fits stands _ ih =>
    cases links <;>
    · rw [FileTree.followLinks, follow, if_neg down, if_neg (Nat.not_lt.2 fits), stands]
      exact ih
  | @file links here name content down fits stands =>
    cases links <;>
    · rw [FileTree.followLinks, follow, if_neg down, if_neg (Nat.not_lt.2 fits), stands]
      rfl
  | @link links here name target down fits stands kept =>
    cases links <;>
    · rw [FileTree.followLinks, follow, if_neg down, if_neg (Nat.not_lt.2 fits), stands]
      exact if_pos ⟨rfl, kept⟩
  | @through links here name rest goal target down fits stands last only _ ih =>
    have onwards : ¬ (rest = [] ∧ followLast = false) := by
      rintro ⟨none, kept⟩
      rw [last none] at kept
      cases kept
    rw [FileTree.followLinks, follow, if_neg down, if_neg (Nat.not_lt.2 fits), stands]
    simp only [if_neg onwards, ih]
    split
    · rename_i asked
      rw [Bool.and_eq_true, List.isEmpty_iff] at asked
      exact only asked.1 asked.2
    · rfl

theorem followLinks_eq_ok_iff {tree : FileTree} {followLast : Bool} {links : Nat}
    {here : Location} {names : List Name} {goal : Target} :
    followLinks tree followLast links here names = .ok goal ↔
      Leads tree followLast links here names goal :=
  ⟨leads_of_followLinks, Leads.followLinks⟩

end FileTree

end PageRoutes
