import PageRoutes.Path.Basic

/-! The written form of a path.

Names hold no slash, so joined names are told apart by what is written, and so is where a path
starts. Main statement: reading the written form gives the path back. A path with one more name
is written no shorter.
-/

set_option autoImplicit false

namespace PageRoutes.Path

theorem toList_joinNames (names : List Name) :
    (joinNames names).toList = ['/'].intercalate (names.map fun name => name.text.toList) := by
  rw [joinNames, String.toList_intercalate, List.map_map]
  rfl

theorem joinNames_eq_empty_iff {names : List Name} : joinNames names = "" ↔ names = [] := by
  constructor
  · intro empty
    cases names with
    | nil => rfl
    | cons name rest =>
      exfalso
      apply name.nonempty
      cases rest with
      | nil => simpa [joinNames] using empty
      | cons other rest =>
        rw [joinNames, List.map_cons, List.map_cons, String.intercalate_cons_cons] at empty
        simp [String.append_eq_empty_iff] at empty
  · rintro rfl
    rfl

theorem namesOf_append_slash (first second : List Char) :
    namesOf (first ++ '/' :: second) = namesOf first ++ namesOf second := by
  rw [namesOf, List.splitOn_append_cons_self, List.filterMap_append]
  rfl

theorem namesOf_text (name : Name) : namesOf name.text.toList = [name] := by
  have whole : name.text.toList.splitOn '/' = [name.text.toList] :=
    List.splitOn_eq_singleton name.no_slash
  simp [namesOf, whole]

theorem namesOf_joinNames (names : List Name) : namesOf (joinNames names).toList = names := by
  induction names with
  | nil => rfl
  | cons name rest ih =>
    cases rest with
    | nil => simpa [joinNames] using namesOf_text name
    | cons next others =>
      have written : (joinNames (name :: next :: others)).toList =
          name.text.toList ++ '/' :: (joinNames (next :: others)).toList := by
        rw [toList_joinNames, toList_joinNames]
        simp [List.intercalate_cons_cons]
      rw [written, namesOf_append_slash, namesOf_text, ih, List.singleton_append]

theorem joinNames_injective {first second : List Name}
    (same : joinNames first = joinNames second) : first = second := by
  rw [← namesOf_joinNames first, same, namesOf_joinNames]

theorem utf8ByteSize_joinNames_le (names : List Name) (name : Name) :
    (joinNames names).utf8ByteSize ≤ (joinNames (names ++ [name])).utf8ByteSize := by
  by_cases none : names = []
  · subst none
    exact Nat.zero_le _
  · rw [joinNames, joinNames, List.map_append,
      String.intercalate_append_of_ne_nil (by simpa using none) (by simp),
      String.utf8ByteSize_append, String.utf8ByteSize_append]
    omega

theorem toString_of_names {path : Path} (nonempty : path.names ≠ []) :
    path.toString = path.anchor.text ++ joinNames path.names := by
  obtain ⟨anchor, names⟩ := path
  cases names with
  | nil => exact absurd rfl nonempty
  | cons name rest => cases anchor <;> rfl

theorem namesOf_toString (path : Path) : namesOf path.toString.toList = path.names := by
  obtain ⟨anchor, names⟩ := path
  by_cases none : names = []
  · subst none
    cases anchor <;> rfl
  · have joined := namesOf_joinNames names
    rw [toString_of_names none, String.toList_append]
    cases anchor with
    | relative => exact joined
    | root =>
      have opening : Anchor.root.text.toList = ['/'] := by decide
      rw [opening]
      exact (namesOf_append_slash [] _).trans joined
    | doubleRoot =>
      have opening : Anchor.doubleRoot.text.toList = ['/', '/'] := by decide
      rw [opening]
      exact (namesOf_append_slash ['/'] _).trans joined

theorem head?_joinNames_ne (names : List Name) : (joinNames names).toList.head? ≠ some '/' := by
  cases names with
  | nil => simp [joinNames]
  | cons name rest =>
    have text : name.text.toList ≠ [] := by simpa using name.nonempty
    obtain ⟨first, others, opening⟩ := List.exists_cons_of_ne_nil text
    have apart : first ≠ '/' := by
      rintro rfl
      exact name.no_slash (by simp [opening])
    cases rest <;> simp [toList_joinNames, opening, apart]

theorem anchorOf_text_append (anchor : Anchor) {rest : List Char} (plain : rest.head? ≠ some '/') :
    anchorOf (anchor.text.toList ++ rest) = anchor := by
  cases rest with
  | nil => cases anchor <;> rfl
  | cons first others =>
    have apart : first ≠ '/' := by simpa using plain
    cases anchor <;> simp [Anchor.text, anchorOf, apart]

theorem anchorOf_toString (path : Path) : anchorOf path.toString.toList = path.anchor := by
  obtain ⟨anchor, names⟩ := path
  by_cases none : names = []
  · subst none
    cases anchor <;> rfl
  · rw [toString_of_names none, String.toList_append]
    exact anchorOf_text_append anchor (head?_joinNames_ne names)

/-- Reading the written form of a path gives the path back. -/
@[simp] theorem ofString_toString (path : Path) : ofString path.toString = path := by
  rw [ofString, anchorOf_toString, namesOf_toString]

theorem utf8ByteSize_toString_le_child (parent : Path) (name : Name) :
    parent.toString.utf8ByteSize ≤ (parent.child name).toString.utf8ByteSize := by
  obtain ⟨anchor, names⟩ := parent
  have longer := utf8ByteSize_joinNames_le names name
  have written : (child ⟨anchor, names⟩ name).toString =
      anchor.text ++ joinNames (names ++ [name]) :=
    toString_of_names (by simp)
  rw [written, String.utf8ByteSize_append]
  by_cases none : names = []
  · subst none
    cases anchor with
    | relative =>
      -- The written form of no names is a dot, which has one byte as well.
      have text : joinNames ([] ++ [name]) ≠ "" := by simp [joinNames_eq_empty_iff]
      have bytes : (joinNames ([] ++ [name])).utf8ByteSize ≠ 0 := by
        rwa [Ne, String.utf8ByteSize_eq_zero_iff]
      have dot : (toString ⟨.relative, []⟩).utf8ByteSize = 1 := rfl
      omega
    | root => exact Nat.le_add_right _ _
    | doubleRoot => exact Nat.le_add_right _ _
  · rw [toString_of_names none, String.utf8ByteSize_append]
    exact Nat.add_le_add_left longer _

end PageRoutes.Path
