import PageRoutes.Route.FileName
import PageRoutes.Route.Token

/-! The characters of names and tokens.

A token is made of the characters of its name and of the marks of parameters: a slash, a
star and a colon. Nothing else can come into it. A name has the rank of a parameter or worse
exactly if a bracket opens in it.
-/

set_option autoImplicit false

namespace PageRoutes.Route

theorem mem_dropEnding {ending text : List Char} {c : Char} (member : c ∈ dropEnding ending text) :
    c ∈ text := by
  unfold dropEnding at member
  split at member
  · exact List.mem_of_mem_take member
  · split at member
    · rename_i _ fed
      rcases List.mem_append.1 member with front | feed
      · exact List.mem_of_mem_take front
      · obtain ⟨front, whole⟩ := List.isSuffixOf_iff_suffix.1 fed
        rw [← whole, List.mem_append, List.mem_append]
        exact .inr (.inr feed)
    · exact member

theorem mem_dropExtension {text : List Char} {c : Char} (member : c ∈ dropExtension text) :
    c ∈ text := by
  unfold dropExtension at member
  simp only at member
  split at member
  · exact mem_dropEnding member
  · exact mem_dropEnding member

theorem mem_of_group? {opening text inside rest : List Char}
    (found : group? opening text = some (inside, rest)) {c : Char}
    (member : c ∈ inside ∨ c ∈ rest) : c ∈ text := by
  unfold group? at found
  split at found
  · simp only at found
    split at found
    · rename_i d start tail before after
      cases found
      have behind : c ∈ text.drop opening.length := by
        rcases member with inner | outer
        · exact List.takeWhile_subset _ (before ▸ inner)
        · exact List.dropWhile_subset _ (after ▸ List.mem_cons_of_mem _ outer)
      exact List.mem_of_mem_drop behind
    · cases found
  · cases found

theorem mem_replaceGroups {opening : List Char} {write : List Char → List Char}
    (marks : List Char) (writes : ∀ inside, ∀ c ∈ write inside, c ∈ inside ∨ c ∈ marks)
    {text : List Char} {c : Char} (member : c ∈ replaceGroups opening write text) :
    c ∈ text ∨ c ∈ marks := by
  fun_induction replaceGroups opening write text with
  | case1 text inside rest found _ ih =>
    rcases List.mem_append.1 member with written | below
    · exact (writes inside c written).imp_left fun inner => mem_of_group? found (.inl inner)
    · exact (ih below).imp_left fun outer => mem_of_group? found (.inr outer)
  | case2 => cases member
  | case3 d rest found ih =>
    rcases List.mem_cons.1 member with rfl | below
    · exact .inl List.mem_cons_self
    · exact (ih below).imp_left fun outer => List.mem_cons_of_mem _ outer

theorem mem_tokenChars {raw : List Char} {c : Char} (member : c ∈ tokenChars raw) :
    c ∈ raw ∨ c ∈ ['/', '*', ':'] := by
  unfold tokenChars at member
  have colons : ∀ inside, ∀ d ∈ ':' :: inside, d ∈ inside ∨ d ∈ [':'] := by
    intro inside d inner
    rcases List.mem_cons.1 inner with rfl | below
    · exact .inr List.mem_cons_self
    · exact .inl below
  have stars : ∀ inside : List Char, ∀ d ∈ ['*'], d ∈ inside ∨ d ∈ ['*'] := fun _ _ => .inr
  rcases mem_replaceGroups [':'] colons member with kept | colon
  · rcases mem_replaceGroups ['*'] stars kept with named | star
    · split at named
      · cases named
      · obtain ⟨d, original, same⟩ := List.mem_map.1 (mem_dropExtension (mem_dropEnding named))
        split at same
        · exact .inr (by simp [← same])
        · exact .inl (same ▸ original)
    · exact .inr (by simp [List.mem_singleton.1 star])
  · exact .inr (by simp [List.mem_singleton.1 colon])

/-- A property of the characters of a name and of the marks is one of the characters of its
token. -/
theorem forall_mem_token {holds : Char → Prop} {name : String}
    (marks : holds '/' ∧ holds '*' ∧ holds ':') (letters : ∀ c ∈ name.toList, holds c) :
    ∀ c ∈ (token name).toList, holds c := by
  intro c member
  rw [token, String.toList_ofList] at member
  rcases mem_tokenChars member with letter | mark
  · exact letters c letter
  · simp only [List.mem_cons, List.not_mem_nil, or_false] at mark
    rcases mark with rfl | rfl | rfl
    · exact marks.1
    · exact marks.2.1
    · exact marks.2.2

theorem mem_of_occurs {run text : List Char} (found : occurs run text = true) {c : Char}
    (member : c ∈ run) : c ∈ text := by
  induction text with
  | nil =>
    rw [occurs, List.isEmpty_iff] at found
    rw [found] at member
    cases member
  | cons first rest ih =>
    rw [occurs, Bool.or_eq_true, List.isPrefixOf_iff_prefix] at found
    rcases found with here | later
    · exact here.subset member
    · exact List.mem_cons_of_mem _ (ih later)

theorem dynamic_le_rank_iff (name : String) :
    Rank.dynamic.level ≤ (rank name).level ↔ '[' ∈ name.toList := by
  unfold rank
  split
  · rename_i catchAll
    exact iff_of_true (by decide) (mem_of_occurs catchAll (by decide))
  · split
    · rename_i bracket
      exact iff_of_true (Nat.le_refl _) (List.contains_iff_mem.1 bracket)
    · rename_i free
      rw [List.contains_iff_mem] at free
      refine iff_of_false ?_ free
      split <;> decide

end PageRoutes.Route
