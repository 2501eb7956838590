import Mathlib.Data.List.Induction
import PageRoutes.Proofs.FileTree.Grounded

/-! Names that lead to no directory.

A free name, a file, and a link to anything but a directory have this in common: whatever comes to
stand there, every way to a directory stays as it was.
-/

set_option autoImplicit false

namespace PageRoutes.FileTree

/-- A name in a directory that leads to no directory. -/
structure IsBlind (tree : FileTree) (directory : Location) (name : Name) : Prop where
  stands : tree.get? (directory ++ [name]) ≠ some .directory
  ends : ∀ {links goal}, links ≤ linksFollowed → tree.get? goal = some .directory →
    ¬ Leads tree true links directory [name] (.found goal)

variable {tree other : FileTree} {start here directory : Location} {followLast : Bool}
  {links : Nat} {names rest : List Name} {name : Name} {goal : Target} {path parent : Path}

theorem Leads.front_append (grounded : Grounded tree) (stands : tree.get? here = some .directory)
    (nonempty : rest ≠ []) (leads : Leads tree followLast links here (names ++ rest) goal) :
    ∃ directory, Leads tree true links here names (.found directory) ∧
      tree.get? directory = some .directory := by
  induction rest using List.reverseRecOn generalizing followLast goal with
  | nil => exact absurd rfl nonempty
  | append_singleton rest name ih =>
    rw [← List.append_assoc] at leads
    obtain ⟨directory, front, reached, _⟩ := leads.front grounded stands
    by_cases none : rest = []
    · subst none
      rw [List.append_nil] at front
      exact ⟨directory, front, reached⟩
    · exact ih none front

theorem isBlind_of_isPlain (down : name ≠ Name.up) (plain : tree.IsPlain (directory ++ [name])) :
    tree.IsBlind directory name := by
  have bare : ∀ {entry}, tree.get? (directory ++ [name]) = some entry →
      ∃ content, entry = .file content := by
    intro entry stands
    rcases plain with none | ⟨content, file⟩
    · rw [none] at stands
      cases stands
    · exact ⟨content, Option.some.inj (stands.symm.trans file)⟩
  refine ⟨fun stands => ?_, fun {links goal} _ reached leads => ?_⟩
  · obtain ⟨content, file⟩ := bare stands
    cases file
  · cases leads with
    | up _ => exact down rfl
    | down _ _ passed _ =>
      obtain ⟨content, file⟩ := bare passed
      cases file
    | file _ _ ends =>
      rw [ends] at reached
      cases reached
    | link _ _ _ kept => cases kept
    | through _ _ passed _ _ _ =>
      obtain ⟨content, file⟩ := bare passed
      cases file

theorem isBlind_of_directoryAt? (admits : Admits parent name)
    (nowhere : tree.directoryAt? directory ⟨.relative, [name]⟩ = none) :
    tree.IsBlind directory name := by
  have clean : hasNul ⟨.relative, [name]⟩ = false := by
    have whole := admits.clean
    rw [hasNul_child, Bool.or_eq_false_iff] at whole
    simpa [hasNul] using whole.2
  have short : (Path.mk .relative [name]).toString.utf8ByteSize ≤ longestPath := by
    have text : (Path.mk .relative [name]).toString = name.text := by
      simp [Path.toString, Anchor.text, Path.joinNames]
    rw [text]
    exact Nat.le_trans admits.fits (by decide)
  have ends : ∀ {links goal}, links ≤ linksFollowed → tree.get? goal = some .directory →
      ¬ Leads tree true links directory [name] (.found goal) := by
    intro links goal limit stands leads
    rw [directoryAt?_eq_some_iff.2
      ⟨locate_eq_ok_iff.2 ⟨clean, short, leads.more_links limit⟩, stands⟩] at nowhere
    cases nowhere
  exact ⟨fun stands => ends (Nat.zero_le _) stands (.down admits.down admits.fits stands .arrived),
    ends⟩

section Kept

variable (grounded : Grounded tree)
  (same : ∀ directory name, tree.IsBlind directory name ∨
    other.get? (directory ++ [name]) = tree.get? (directory ++ [name]))

include same in
theorem directory_of_blind (stands : tree.get? directory = some .directory) :
    other.get? directory = some .directory := by
  rcases List.eq_nil_or_concat directory with rfl | ⟨front, last, rfl⟩
  · exact get?_root other
  · rw [List.concat_eq_append] at stands ⊢
    rcases same front last with blind | kept
    · exact absurd stands blind.stands
    · exact kept.trans stands

include grounded same in
/-- A change at blind names alone keeps every way to a directory. -/
theorem Leads.keeps_of_blind (limit : links ≤ linksFollowed)
    (standing : tree.get? here = some .directory) (stands : tree.get? directory = some .directory)
    (leads : Leads tree followLast links here names (.found directory)) :
    Leads other followLast links here names (.found directory) := by
  -- The end of the way stays the same in all steps, so it is kept as an equation.
  generalize aim : Target.found directory = goal at leads
  induction leads with
  | arrived => exact .arrived
  | up _ ih => exact .up (ih limit (grounded.dropLast standing) aim)
  | free _ _ _ => cases aim
  | down down fits passed _ ih =>
    exact .down down fits (directory_of_blind same passed) (ih limit passed aim)
  | file _ _ ends =>
    cases aim
    rw [ends] at stands
    cases stands
  | link _ _ ends _ =>
    cases aim
    rw [ends] at stands
    cases stands
  | @through links here name rest goal target down fits passed last only below ih =>
    cases aim
    have within := Nat.le_of_succ_le limit
    have origin : tree.get? (if target.path.IsAbsolute then [] else here) = some .directory :=
      get?_origin standing
    rcases same here name with blind | kept
    · -- The way goes through the name, so the name leads to a directory.
      exfalso
      by_cases none : rest = []
      · subst none
        cases last rfl
        exact blind.ends limit stands (.through down fits passed last only below)
      · obtain ⟨reached, front, directory⟩ := below.front_append grounded origin none
        refine blind.ends limit directory (.through down fits passed (fun _ => rfl) ?_
          (by rwa [List.append_nil]))
        simp [onlyDirectory, directory]
    · refine .through down fits (kept.trans passed) last (fun _ _ => ?_) (ih within origin rfl)
      simp [onlyDirectory, directory_of_blind same stands]

include grounded same in
theorem directoryAt?_of_blind (standing : tree.get? start = some .directory)
    (reaches : tree.directoryAt? start path = some directory) :
    other.directoryAt? start path = some directory := by
  obtain ⟨located, stands⟩ := directoryAt?_eq_some_iff.1 reaches
  obtain ⟨clean, short, leads⟩ := locate_eq_ok_iff.1 located
  refine directoryAt?_eq_some_iff.2 ⟨locate_eq_ok_iff.2 ⟨clean, short, ?_⟩,
    directory_of_blind same stands⟩
  exact leads.keeps_of_blind grounded same (Nat.le_refl _) (get?_origin standing) stands

end Kept

end PageRoutes.FileTree
