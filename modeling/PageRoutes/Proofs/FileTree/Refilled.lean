import PageRoutes.Proofs.FileTree.Blind

/-! A file at the end of a way.

What is written at the end of a way is found there again, also when other names change at the same
time, as long as the way does not lead through them. A link that is no longer there matters only to
a way that was led on by it.
-/

set_option autoImplicit false

namespace PageRoutes.FileTree

def Target.location : Target → Location
  | .found location => location
  | .free directory name => directory ++ [name]

variable {tree other : FileTree} {start here location : Location} {followLast : Bool} {path : Path}
  {names : List Name} {links more : Nat} {goal second : Target} {content : ByteArray}

/-- A way leads to one goal, however many links may be followed. -/
theorem Leads.unique (first : Leads tree followLast links here names goal)
    (again : Leads tree followLast more here names second) : goal = second := by
  have one := (first.more_links (Nat.le_max_left links more)).followLinks
  have another := (again.more_links (Nat.le_max_right links more)).followLinks
  exact Except.ok.inj (one.symm.trans another)

theorem Leads.directory_or_file (grounded : Grounded tree)
    (stands : tree.get? here = some .directory)
    (leads : Leads tree true links here names (.found location)) :
    tree.get? location = some .directory ∨
      ∃ content, tree.get? location = some (.file content) := by
  generalize aim : Target.found location = goal at leads
  induction leads with
  | arrived =>
    cases aim
    exact .inl stands
  | up _ ih => exact ih (grounded.dropLast stands) aim
  | down _ _ passed _ ih => exact ih passed aim
  | free _ _ _ => cases aim
  | file _ _ ends =>
    cases aim
    exact .inr ⟨_, ends⟩
  | link _ _ _ kept => cases kept
  | through _ _ _ _ _ _ ih => exact ih (get?_origin stands) aim

theorem Leads.eq_found {entry : Entry} (leads : Leads tree followLast links here names goal)
    (place : goal.location = location) (stands : tree.get? location = some entry) :
    goal = .found location := by
  subst place
  cases goal with
  | found location => rfl
  | free directory name =>
    rw [Target.location, leads.get?_free] at stands
    cases stands

theorem onlyDirectory_of_directories (directories : ∀ {place}, tree.get? place = some .directory →
      other.get? place = some .directory) {reached : Target}
    (same : reached.location = goal.location)
    (leads : Leads other followLast links here names reached)
    (only : tree.onlyDirectory goal = .ok goal) : other.onlyDirectory reached = .ok reached := by
  unfold onlyDirectory at only
  split at only
  · cases only
  · split at only
    · rename_i location _ stands
      have still := directories stands
      cases leads.eq_found same still
      simp only [onlyDirectory, Target.location, still]
    · cases only

/-- The last name on the way to a place without a directory is no double dot, and a directory stands
in front of it. -/
theorem Leads.exists_last (grounded : Grounded tree) (stands : tree.get? here = some .directory)
    (plain : tree.IsPlain goal.location) (leads : Leads tree followLast links here names goal) :
    ∃ directory name, name ≠ Name.up ∧ tree.get? directory = some .directory ∧
      goal.location = directory ++ [name] := by
  induction leads with
  | arrived => exact absurd stands plain.ne_directory
  | up _ ih => exact ih (grounded.dropLast stands) plain
  | free down _ _ => exact ⟨_, _, down, stands, rfl⟩
  | down _ _ passed _ ih => exact ih passed plain
  | file down _ _ => exact ⟨_, _, down, stands, rfl⟩
  | link down _ _ _ => exact ⟨_, _, down, stands, rfl⟩
  | through _ _ _ _ _ _ ih => exact ih (get?_origin stands) plain

/-- A way leads to the same place in a tree where the directories on it still stand, and every link
but one that leads nowhere with so few links. At its end a file may come or go. -/
theorem Leads.rerouted (grounded : Grounded tree) (stands : tree.get? here = some .directory)
    (directories : ∀ {place}, tree.get? place = some .directory →
      other.get? place = some .directory)
    (linked : ∀ {directory name target}, tree.get? (directory ++ [name]) = some (.link target) →
      other.get? (directory ++ [name]) = some (.link target) ∨
        ∀ goal, ¬ Leads tree true links directory [name] goal)
    (plain : tree.IsPlain goal.location → other.IsPlain goal.location)
    (leads : Leads tree true links here names goal) :
    ∃ reached : Target, reached.location = goal.location ∧
      Leads other true links here names reached ∧
      (other.get? goal.location = tree.get? goal.location → reached = goal) := by
  induction leads with
  | arrived => exact ⟨_, rfl, .arrived, fun _ => rfl⟩
  | up _ ih =>
    obtain ⟨reached, place, below, same⟩ := ih (grounded.dropLast stands) linked plain
    exact ⟨reached, place, .up below, same⟩
  | down down fits passed _ ih =>
    obtain ⟨reached, place, below, same⟩ := ih passed linked plain
    exact ⟨reached, place, .down down fits (directories passed) below, same⟩
  | free down fits none =>
    rcases plain (.inl none) with still | ⟨content, file⟩
    · exact ⟨_, rfl, .free down fits still, fun _ => rfl⟩
    · refine ⟨.found _, rfl, .file down fits file, fun same => ?_⟩
      cases file.symm.trans (same.trans none)
  | file down fits ends =>
    rcases plain (.inr ⟨_, ends⟩) with none | ⟨content, file⟩
    · refine ⟨.free _ _, rfl, .free down fits none, fun same => ?_⟩
      cases none.symm.trans (same.trans ends)
    · exact ⟨_, rfl, .file down fits file, fun _ => rfl⟩
  | link _ _ _ kept => cases kept
  | @through links here name rest goal target down fits passed last only below ih =>
    have origin : tree.get? (if target.path.IsAbsolute then [] else here) = some .directory :=
      get?_origin stands
    have still : other.get? (here ++ [name]) = some (.link target) := by
      refine (linked passed).resolve_right fun lost => ?_
      -- The way itself is led on by the link, at least as far as the names behind it.
      have whole : Leads tree true (links + 1) here ([name] ++ rest) goal :=
        .through down fits passed last only below
      by_cases none : rest = []
      · rw [none, List.append_nil] at whole
        exact lost goal whole
      · obtain ⟨directory, front, -⟩ := whole.front_append grounded stands none
        exact lost _ front
    obtain ⟨reached, place, onwards, same⟩ := ih origin (fun passed =>
      (linked passed).imp_right fun lost goal fewer =>
        lost goal (fewer.more_links (Nat.le_succ _))) plain
    exact ⟨reached, place, .through down fits still (fun _ => rfl) (fun asked none =>
      onlyDirectory_of_directories directories place onwards (only asked none)) onwards, same⟩

theorem exists_of_writeFile (grounded : Grounded tree)
    (standing : tree.get? start = some .directory)
    (wrote : tree.writeFile start path content = .ok other) :
    ∃ goal, tree.locate start true path = .ok goal ∧ tree.IsPlain goal.location ∧
      goal.location ≠ [] ∧ other = tree.place goal.location (.file content) := by
  unfold writeFile at wrote
  split at wrote
  · cases wrote
  · rename_i directory name located
    cases wrote
    exact ⟨_, located, .inl (get?_of_locate_free located), by simp [Target.location], rfl⟩
  · rename_i location located
    split at wrote
    · cases wrote
    -- What a way leads to is a directory or a file, and a directory is not written to.
    · rename_i noDirectory
      cases wrote
      have plain : tree.IsPlain location :=
        .inr (((locate_eq_ok_iff.1 located).2.2.directory_or_file grounded
          (get?_origin standing)).resolve_left noDirectory)
      refine ⟨_, located, plain, ?_, rfl⟩
      rintro rfl
      exact noDirectory (get?_root tree)

theorem locate_of_writeFile (grounded : Grounded tree)
    (standing : tree.get? start = some .directory)
    (wrote : tree.writeFile start path content = .ok other) :
    ∃ location, other.locate start true path = .ok (.found location) ∧
      other.get? location = some (.file content) := by
  obtain ⟨goal, located, plain, below, rfl⟩ := exists_of_writeFile grounded standing wrote
  obtain ⟨clean, short, leads⟩ := locate_eq_ok_iff.1 located
  have keeps := keepsWays_place plain (.file content)
  have filled := get?_place_self tree goal.location (.file content) below
  obtain ⟨reached, place, onwards, -⟩ := leads.rerouted grounded (get?_origin standing)
    keeps.directory (fun passed => .inl (keeps.link passed)) fun _ => .inr ⟨_, filled⟩
  cases onwards.eq_found place filled
  exact ⟨goal.location, locate_eq_ok_iff.2 ⟨clean, short, onwards⟩, filled⟩

end PageRoutes.FileTree
