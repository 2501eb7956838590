import PageRoutes.Page
import PageRoutes.Proofs.Path.Ways

/-! Paths below a directory.

Names without a double dot survive the collapsing of a path behind whatever stands before
them. So the way from a directory to a file below it is made of the very names between them,
wherever the directory stands and however its own path is written. With double dots among the
names the way may lead out of the directory, but it still has no other names in it.
-/

set_option autoImplicit false

namespace PageRoutes

namespace Path

/-- The path that some names lead to from a directory. -/
def below (base : Path) (names : List Name) : Path := ⟨base.anchor, base.names ++ names⟩

@[simp] theorem parent_below_concat (base : Path) (names : List Name) (name : Name) :
    (base.below (names ++ [name])).parent = base.below names := by
  simp [parent, below, ← List.append_assoc]

@[simp] theorem fileName_below_concat (base : Path) (names : List Name) (name : Name) :
    (base.below (names ++ [name])).fileName = name.text := by
  simp [fileName, lastName?, below, ← List.append_assoc]

theorem names_join_below (workingDirectory base : Path) (names : List Name) :
    (workingDirectory.join (base.below names)).names =
      (workingDirectory.join base).names ++ names := by
  unfold join
  by_cases relative : base.anchor = .relative
  · rw [if_pos (show (base.below names).anchor = .relative from relative), if_pos relative]
    exact (List.append_assoc _ _ _).symm
  · rw [if_neg (show (base.below names).anchor ≠ .relative from relative), if_neg relative]
    rfl

theorem absoluteNames_below (workingDirectory base : Path) {names : List Name}
    (free : Name.up ∉ names) :
    absoluteNames workingDirectory (base.below names) =
      absoluteNames workingDirectory base ++ names := by
  rw [absoluteNames, names_join_below, collapse, foldl_descend_append free]
  rfl

theorem steps_append (start rest : List Name) : steps start (start ++ rest) = rest := by
  induction start with
  | nil => cases rest <;> simp [steps]
  | cons name others ih => rw [List.cons_append, steps, if_pos rfl, ih]

theorem relativeNames_below (workingDirectory base : Path) {names : List Name}
    (free : Name.up ∉ names) : relativeNames workingDirectory (base.below names) base = names := by
  rw [relativeNames, absoluteNames_below workingDirectory base free, steps_append]

theorem mem_steps {start target : List Name} {name : Name} (member : name ∈ steps start target) :
    name = Name.up ∨ name ∈ target := by
  fun_induction steps start target with
  | case1 first start target ih =>
    exact (ih member).imp_right fun later => List.mem_cons_of_mem _ later
  | case2 first start second target apart =>
    rcases List.mem_append.1 member with back | onwards
    · exact .inl (List.mem_replicate.1 back).2
    · exact .inr onwards
  | case3 start target ended =>
    rcases List.mem_append.1 member with back | onwards
    · exact .inl (List.mem_replicate.1 back).2
    · exact .inr onwards

/-- Going down takes names off the end of what was reached and adds some of its own. -/
theorem exists_foldl_descend (names reached : List Name) :
    ∃ count added, names.foldl descend reached = reached.take count ++ added ∧ added ⊆ names := by
  induction names using List.reverseRecOn with
  | nil => exact ⟨reached.length, [], by simp, List.nil_subset _⟩
  | append_singleton names name ih =>
    obtain ⟨count, added, shape, own⟩ := ih
    rw [List.foldl_append, List.foldl_cons, List.foldl_nil, shape, descend]
    split
    · rcases List.eq_nil_or_concat added with rfl | ⟨front, last, rfl⟩
      · have shorter : (reached.take count).dropLast =
            reached.take (min count reached.length - 1) := by
          rw [List.dropLast_eq_take, List.take_take, List.length_take]
          congr 1
          omega
        refine ⟨min count reached.length - 1, [], ?_, List.nil_subset _⟩
        rw [List.append_nil, List.append_nil, shorter]
      · refine ⟨count, front, by simp [← List.append_assoc], ?_⟩
        intro part member
        apply List.mem_append_left
        apply own
        simp [member]
    · refine ⟨count, added ++ [name], by rw [List.append_assoc], ?_⟩
      intro part member
      rcases List.mem_append.1 member with before | last
      · exact List.mem_append_left _ (own before)
      · exact List.mem_append_right _ last

theorem mem_steps_take {start added : List Name} {count : Nat} {name : Name}
    (member : name ∈ steps start (start.take count ++ added)) :
    name = Name.up ∨ name ∈ added := by
  induction start generalizing count with
  | nil => simpa using mem_steps member
  | cons first rest ih =>
    cases count with
    | zero => exact mem_steps member
    | succ count =>
      rw [List.take_succ_cons, List.cons_append, steps, if_pos rfl] at member
      exact ih member

/-- A way below a directory is made of its own names, and of double dots if it leads out. -/
theorem mem_relativeNames_below (workingDirectory base : Path) {names : List Name} {name : Name}
    (member : name ∈ relativeNames workingDirectory (base.below names) base) :
    name = Name.up ∨ name ∈ names := by
  obtain ⟨count, added, shape, own⟩ :=
    exists_foldl_descend names (absoluteNames workingDirectory base)
  have target : absoluteNames workingDirectory (base.below names) =
      (absoluteNames workingDirectory base).take count ++ added := by
    rw [absoluteNames, names_join_below, collapse_append]
    exact shape
  rw [relativeNames, target] at member
  exact (mem_steps_take member).imp_right fun listed => own listed

end Path

theorem Page.mem_directories_below {workingDirectory pagesDirectory : Path}
    {directories : List Name} {name directory : Name}
    (member : directory ∈ Page.directories workingDirectory
      (pagesDirectory.below (directories ++ [name])) pagesDirectory) :
    directory = Name.up ∨ directory ∈ directories := by
  rw [Page.directories, Path.parent_below_concat] at member
  exact Path.mem_relativeNames_below workingDirectory pagesDirectory member

theorem Page.directories_below (workingDirectory pagesDirectory : Path)
    {directories : List Name} (free : Name.up ∉ directories) (name : Name) :
    Page.directories workingDirectory (pagesDirectory.below (directories ++ [name]))
      pagesDirectory = directories := by
  rw [Page.directories, Path.parent_below_concat]
  exact Path.relativeNames_below workingDirectory pagesDirectory free

end PageRoutes
