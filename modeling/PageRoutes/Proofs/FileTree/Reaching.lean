import PageRoutes.Proofs.FileTree.Leads

/-! Paths that lead to a directory.

A way to a directory passes through directories and links only. It stays the same in every
tree in which those still stand, whatever becomes of files and of free names. A path with one
more name leads to what stands under that name there.
-/

set_option autoImplicit false

namespace PageRoutes.FileTree

def directoryAt? (tree : FileTree) (start : Location) (path : Path) : Option Location :=
  match tree.locate start true path with
  | .ok (.found location) =>
    if tree.get? location = some .directory then some location else none
  | _ => none

/-- Every directory and every link of a tree stands in the other as well. -/
structure KeepsWays (tree other : FileTree) : Prop where
  directory : ∀ {location}, tree.get? location = some .directory →
    other.get? location = some .directory
  link : ∀ {location target}, tree.get? location = some (.link target) →
    other.get? location = some (.link target)

/-- Nothing stands at a location, or a file that no way leads through. -/
def IsPlain (tree : FileTree) (location : Location) : Prop :=
  tree.get? location = none ∨ ∃ content, tree.get? location = some (.file content)

structure Admits (parent : Path) (name : Name) : Prop where
  down : name ≠ Name.up
  fits : name.text.utf8ByteSize ≤ longestName
  clean : hasNul (parent.child name) = false
  short : (parent.child name).toString.utf8ByteSize ≤ longestPath

variable {tree other : FileTree} {start directory here : Location} {followLast : Bool}
  {links more used left : Nat} {names rest : List Name} {name : Name} {goal : Target}

theorem IsPlain.ne_directory (plain : tree.IsPlain here) :
    tree.get? here ≠ some .directory := by
  rcases plain with none | ⟨content, file⟩
  · rw [none]
    exact nofun
  · rw [file]
    exact nofun

theorem keepsWays_of_plain
    (same : ∀ location, tree.IsPlain location ∨ other.get? location = tree.get? location) :
    KeepsWays tree other := by
  have kept : ∀ {location entry}, tree.get? location = some entry →
      (∀ content, entry ≠ .file content) → other.get? location = some entry := by
    intro location entry stands other
    rcases same location with (none | ⟨content, file⟩) | same
    · rw [none] at stands
      cases stands
    · exact absurd (Option.some.inj (stands.symm.trans file)) (other content)
    · exact same.trans stands
  exact ⟨fun stands => kept stands nofun, fun stands => kept stands nofun⟩

theorem keepsWays_of_get?_eq (same : ∀ location, other.get? location = tree.get? location) :
    KeepsWays tree other :=
  ⟨fun stands => (same _).trans stands, fun stands => (same _).trans stands⟩

theorem keepsWays_place {location : Location} (plain : tree.IsPlain location) (entry : Entry) :
    KeepsWays tree (tree.place location entry) := by
  refine keepsWays_of_plain fun other => ?_
  by_cases here : location = other
  · exact .inl (here ▸ plain)
  · exact .inr (get?_place_of_ne tree entry here)

/-- A way to a directory is a way in every tree that keeps directories and links. -/
theorem Leads.keepsWays (keeps : KeepsWays tree other)
    (stands : tree.get? directory = some .directory)
    (leads : Leads tree followLast links here names (.found directory)) :
    Leads other followLast links here names (.found directory) := by
  generalize aim : Target.found directory = goal at leads
  induction leads with
  | arrived =>
    cases aim
    exact .arrived
  | up _ ih => exact .up (ih aim)
  | free _ _ _ => cases aim
  | down down fits passed _ ih => exact .down down fits (keeps.directory passed) (ih aim)
  | file _ _ last =>
    cases aim
    rw [last] at stands
    cases stands
  | link _ _ last _ =>
    cases aim
    rw [last] at stands
    cases stands
  | through down fits passed last only _ ih =>
    refine .through down fits (keeps.link passed) last (fun asked none => ?_) (ih aim)
    cases aim
    simp [onlyDirectory, keeps.directory stands]

theorem Leads.made (keeps : KeepsWays tree other)
    (stands : other.get? (directory ++ [name]) = some .directory)
    (leads : Leads tree false links here names (.free directory name)) :
    Leads other true links here names (.found (directory ++ [name])) := by
  generalize aim : Target.free directory name = goal at leads
  induction leads with
  | arrived => cases aim
  | up _ ih => exact .up (ih aim)
  | free down fits _ =>
    cases aim
    exact .down down fits stands .arrived
  | down down fits passed _ ih => exact .down down fits (keeps.directory passed) (ih aim)
  | file _ _ _ => cases aim
  | link _ _ _ _ => cases aim
  | through down fits passed last only _ ih =>
    exact .through down fits (keeps.link passed) (fun _ => rfl)
      (fun _ none => nomatch last none) (ih aim)

theorem Leads.more_links (fewer : links ≤ more)
    (leads : Leads tree followLast links here names goal) :
    Leads tree followLast more here names goal := by
  induction leads generalizing more with
  | arrived => exact .arrived
  | up _ ih => exact .up (ih fewer)
  | free down fits none => exact .free down fits none
  | down down fits passed _ ih => exact .down down fits passed (ih fewer)
  | file down fits ends => exact .file down fits ends
  | link down fits ends kept => exact .link down fits ends kept
  | through down fits passed last only _ ih =>
    cases more with
    | zero => cases fewer
    | succ more => exact .through down fits passed last only (ih (Nat.le_of_succ_le_succ fewer))

/-- Behind a way to a directory goes on what goes on from there, with the links that it takes. -/
theorem Leads.join (stands : tree.get? directory = some .directory) (onwards : rest ≠ [])
    (last : Leads tree followLast left directory rest goal)
    (leads : Leads tree true used here names (.found directory)) :
    Leads tree followLast (used + left) here (names ++ rest) goal := by
  generalize aim : Target.found directory = reached at leads
  induction leads with
  | arrived =>
    cases aim
    exact last.more_links (Nat.le_add_left _ _)
  | up _ ih => exact .up (ih aim)
  | free _ _ _ => cases aim
  | down down fits passed _ ih => exact .down down fits passed (ih aim)
  | file _ _ ends =>
    cases aim
    rw [ends] at stands
    cases stands
  | link _ _ _ kept => cases kept
  | through down fits passed _ _ _ ih =>
    have behind := ih aim
    rw [List.append_assoc] at behind
    rw [Nat.succ_add_eq_add_succ]
    exact .through down fits passed (by simp [onwards]) (by simp [onwards]) behind

theorem Leads.concat (stands : tree.get? directory = some .directory)
    (last : ∀ links, Leads tree followLast links directory [name] goal)
    (leads : Leads tree true links here names (.found directory)) :
    Leads tree followLast links here (names ++ [name]) goal :=
  Leads.join stands (List.cons_ne_nil _ _) (last 0) leads

theorem Leads.unfollowed (leads : Leads tree true links here names (.found directory)) :
    ∃ location, Leads tree false links here names (.found location) := by
  generalize aim : Target.found directory = reached at leads
  induction leads with
  | arrived => exact ⟨_, .arrived⟩
  | up _ ih =>
    obtain ⟨location, below⟩ := ih aim
    exact ⟨location, .up below⟩
  | free _ _ _ => cases aim
  | down down fits passed _ ih =>
    obtain ⟨location, below⟩ := ih aim
    exact ⟨location, .down down fits passed below⟩
  | file down fits ends => exact ⟨_, .file down fits ends⟩
  | link down fits ends kept => cases kept
  | @through links here name rest goal target down fits passed _ _ _ ih =>
    rcases List.eq_nil_or_concat rest with rfl | ⟨front, last, rfl⟩
    · exact ⟨_, .link down fits passed rfl⟩
    · obtain ⟨location, below⟩ := ih aim
      exact ⟨location, .through down fits passed (by simp) (by simp) below⟩

theorem Leads.followed (stands : tree.get? directory = some .directory)
    (leads : Leads tree false links here names (.found directory)) :
    Leads tree true links here names (.found directory) := by
  generalize aim : Target.found directory = goal at leads
  induction leads with
  | arrived => exact .arrived
  | up _ ih => exact .up (ih aim)
  | free down fits none => exact .free down fits none
  | down down fits passed _ ih => exact .down down fits passed (ih aim)
  | file down fits ends => exact .file down fits ends
  | link _ _ ends _ =>
    cases aim
    rw [ends] at stands
    cases stands
  | through down fits passed _ only _ ih =>
    exact .through down fits passed (fun _ => rfl) only (ih aim)

theorem Leads.last_unfollowed {location : Location} (down : name ≠ Name.up)
    (leads : Leads tree false links here [name] (.found location)) :
    location = here ++ [name] := by
  cases leads with
  | up _ => exact absurd rfl down
  | down _ _ _ arrived =>
    cases arrived
    rfl
  | file _ _ _ => rfl
  | link _ _ _ _ => rfl
  | through _ _ _ followed _ _ => cases followed rfl

theorem Leads.get?_free (leads : Leads tree followLast links here names (.free directory name)) :
    tree.get? (directory ++ [name]) = none := by
  generalize aim : Target.free directory name = goal at leads
  induction leads with
  | free _ _ stands =>
    cases aim
    exact stands
  | up _ ih => exact ih aim
  | down _ _ _ _ ih => exact ih aim
  | through _ _ _ _ _ _ ih => exact ih aim
  | arrived => cases aim
  | file _ _ _ => cases aim
  | link _ _ _ _ => cases aim

theorem Leads.fits_last (down : name ≠ Name.up) (last : names.getLast? = some name)
    (leads : Leads tree followLast links here names goal) :
    name.text.utf8ByteSize ≤ longestName := by
  have onwards : ∀ {first : Name} {rest : List Name},
      (first :: rest).getLast? = some name → rest = [] ∧ first = name ∨
        ∀ front, (front ++ rest).getLast? = some name := by
    intro first rest last
    rcases List.eq_nil_or_concat rest with rfl | ⟨middle, final, rfl⟩
    · exact .inl ⟨rfl, by simpa using last⟩
    · rw [List.concat_eq_append, ← List.cons_append, List.getLast?_concat] at last
      right
      intro front
      rw [List.concat_eq_append, ← List.append_assoc, List.getLast?_concat, last]
  induction leads with
  | arrived => cases last
  | up _ ih =>
    rcases onwards last with ⟨_, same⟩ | later
    · exact absurd same.symm down
    · exact ih (later [])
  | free _ fits _ => exact Option.some.inj last ▸ fits
  | file _ fits _ => exact Option.some.inj last ▸ fits
  | link _ fits _ _ => exact Option.some.inj last ▸ fits
  | down _ fits _ _ ih =>
    rcases onwards last with ⟨_, same⟩ | later
    · exact same ▸ fits
    · exact ih (later [])
  | through _ fits _ _ _ _ ih =>
    rcases onwards last with ⟨_, same⟩ | later
    · exact same ▸ fits
    · exact ih (later _)

variable {path parent : Path}

theorem locate_eq_ok_iff :
    tree.locate start followLast path = .ok goal ↔
      hasNul path = false ∧ path.toString.utf8ByteSize ≤ longestPath ∧
        Leads tree followLast linksFollowed (if path.IsAbsolute then [] else start)
          path.names goal := by
  rw [locate, ← followLinks_eq_ok_iff]
  cases hasNul path with
  | true => simp
  | false =>
    by_cases short : path.toString.utf8ByteSize ≤ longestPath
    · simp [short, Nat.not_lt.2 short]
    · simp [short, Nat.lt_of_not_le short]

theorem directoryAt?_eq_some_iff :
    tree.directoryAt? start path = some directory ↔
      tree.locate start true path = .ok (.found directory) ∧
        tree.get? directory = some .directory := by
  unfold directoryAt?
  split
  · rename_i location reached
    rw [Option.ite_none_right_eq_some]
    constructor
    · rintro ⟨stands, same⟩
      cases same
      exact ⟨reached, stands⟩
    · rintro ⟨same, stands⟩
      rw [reached] at same
      cases same
      exact ⟨stands, rfl⟩
  · rename_i missed
    constructor
    · intro none
      cases none
    · rintro ⟨reached, _⟩
      exact absurd reached (missed directory)

theorem directoryAt?_keepsWays (keeps : KeepsWays tree other)
    (reaches : tree.directoryAt? start path = some directory) :
    other.directoryAt? start path = some directory := by
  obtain ⟨located, stands⟩ := directoryAt?_eq_some_iff.1 reaches
  obtain ⟨clean, short, leads⟩ := locate_eq_ok_iff.1 located
  exact directoryAt?_eq_some_iff.2
    ⟨locate_eq_ok_iff.2 ⟨clean, short, leads.keepsWays keeps stands⟩, keeps.directory stands⟩

theorem directoryAt?_of_made (keeps : KeepsWays tree other)
    (stands : other.get? (directory ++ [name]) = some .directory)
    (located : tree.locate start false path = .ok (.free directory name)) :
    other.directoryAt? start path = some (directory ++ [name]) := by
  obtain ⟨clean, short, leads⟩ := locate_eq_ok_iff.1 located
  exact directoryAt?_eq_some_iff.2
    ⟨locate_eq_ok_iff.2 ⟨clean, short, leads.made keeps stands⟩, stands⟩

theorem locate_unfollowed (located : tree.locate start true path = .ok (.found directory)) :
    ∃ location, tree.locate start false path = .ok (.found location) := by
  obtain ⟨clean, short, leads⟩ := locate_eq_ok_iff.1 located
  obtain ⟨location, unfollowed⟩ := leads.unfollowed
  exact ⟨location, locate_eq_ok_iff.2 ⟨clean, short, unfollowed⟩⟩

theorem locate_followed (located : tree.locate start false path = .ok (.found directory))
    (stands : tree.get? directory = some .directory) :
    tree.locate start true path = .ok (.found directory) := by
  obtain ⟨clean, short, leads⟩ := locate_eq_ok_iff.1 located
  exact locate_eq_ok_iff.2 ⟨clean, short, leads.followed stands⟩

theorem get?_of_locate_free (located : tree.locate start followLast path = .ok (.free directory name)) :
    tree.get? (directory ++ [name]) = none :=
  (locate_eq_ok_iff.1 located).2.2.get?_free

/-- A path with one more name leads on from the directory in front of the name. -/
theorem locate_child (admits : Admits parent name)
    (reaches : tree.directoryAt? start parent = some directory)
    (last : ∀ links, Leads tree followLast links directory [name] goal) :
    tree.locate start followLast (parent.child name) = .ok goal := by
  obtain ⟨located, stands⟩ := directoryAt?_eq_some_iff.1 reaches
  exact locate_eq_ok_iff.2
    ⟨admits.clean, admits.short, (locate_eq_ok_iff.1 located).2.2.concat stands last⟩

theorem admits_of_locate (down : name ≠ Name.up)
    (located : tree.locate start followLast (parent.child name) = .ok goal) :
    Admits parent name := by
  obtain ⟨clean, short, leads⟩ := locate_eq_ok_iff.1 located
  exact ⟨down, leads.fits_last down (by simp), clean, short⟩

end PageRoutes.FileTree
