import PageRoutes.Declaration.Line
import PageRoutes.Route.FileName
import PageRoutes.Route.Token

/-! Names that are put together from texts and groups.

Groups are replaced one kind after the other, each time from left to right through the whole name.
Since a bracket opens only where a group begins, a replacement keeps to its group and what was
replaced before is left alone. Main statement: the token of a name is put together from its parts,
with or without an extension, and the rank of a file tells which groups are among them.
-/

set_option autoImplicit false

namespace PageRoutes.Route

/-- What stands in the brackets of a group. -/
structure GroupName where
  text : List Char
  nonempty : text ≠ []
  no_opening : '[' ∉ text
  no_closing : ']' ∉ text

/-- A part of a name: a text in which no bracket opens, or a group. -/
inductive Part where
  | text (characters : List Char) (free : '[' ∉ characters)
  | parameter (name : GroupName) (plain : ¬ "...".toList <+: name.text)
  | catchAll (name : GroupName)

namespace Part

def write : Part → List Char
  | .text characters _ => characters
  | .parameter name _ => '[' :: (name.text ++ [']'])
  | .catchAll name => "[...".toList ++ (name.text ++ [']'])

def token : Part → List Char
  | .text characters _ => characters
  | .parameter name _ => ':' :: name.text
  | .catchAll _ => ['*']

def starred : Part → List Char
  | .catchAll _ => ['*']
  | part => part.write

end Part

theorem not_prefix_of_head {opening rest : List Char} {c : Char}
    (opens : opening.head? = some '[') (other : c ≠ '[') : ¬ opening <+: c :: rest := by
  cases opening with
  | nil => cases opens
  | cons first tail =>
    rw [List.cons_prefix_cons]
    exact fun starts => other (starts.1.symm.trans (Option.some.inj opens))

theorem prefix_before {run front rest : List Char} {c : Char} (free : c ∉ run)
    (starts : run <+: front ++ c :: rest) : run <+: front := by
  have ended : front ++ [c] <+: front ++ c :: rest := by simp
  rcases List.prefix_or_prefix_of_prefix starts ended with within | beyond
  · rcases List.prefix_concat_iff.1 within with rfl | inside
    · simp at free
    · exact inside
  · exact absurd (beyond.subset (by simp)) free

theorem group?_eq_none {opening text : List Char} (apart : ¬ opening <+: text) :
    group? opening text = none := by
  rw [group?, if_neg (by simpa using apart)]

theorem group?_of_name (opening : List Char) (name : GroupName) (rest : List Char) :
    group? opening (opening ++ (name.text ++ ']' :: rest)) = some (name.text, rest) := by
  obtain ⟨text, nonempty, _, closed⟩ := name
  have cut := Declaration.cut_before rest closed
  rw [group?, if_pos (by simp), List.drop_left]
  simp only [cut.1, cut.2]
  cases text with
  | nil => exact absurd rfl nonempty
  | cons c inside => rfl

section

variable {opening : List Char} {write : List Char → List Char}

theorem replaceGroups_nil : replaceGroups opening write [] = [] := by
  have none : group? opening [] = none := by
    rw [group?]
    split <;> simp
  rw [replaceGroups]
  split
  · rename_i found
    cases none.symm.trans found
  · rfl

theorem replaceGroups_of_group {text inside rest : List Char}
    (found : group? opening text = some (inside, rest)) :
    replaceGroups opening write text = write inside ++ replaceGroups opening write rest := by
  rw [replaceGroups]
  split
  · rename_i same
    cases found.symm.trans same
    rfl
  · rename_i none
    cases none.symm.trans found

theorem replaceGroups_cons {c : Char} {rest : List Char}
    (none : group? opening (c :: rest) = none) :
    replaceGroups opening write (c :: rest) = c :: replaceGroups opening write rest := by
  rw [replaceGroups]
  split
  · rename_i found
    cases none.symm.trans found
  · rfl

theorem replaceGroups_append (opens : opening.head? = some '[') {front : List Char}
    (free : '[' ∉ front) (rest : List Char) :
    replaceGroups opening write (front ++ rest) = front ++ replaceGroups opening write rest := by
  induction front with
  | nil => rfl
  | cons c front ih =>
    simp only [List.mem_cons, not_or] at free
    have none : group? opening (c :: (front ++ rest)) = none :=
      group?_eq_none (not_prefix_of_head opens (Ne.symm free.1))
    rw [List.cons_append, replaceGroups_cons none, ih free.2, List.cons_append]

/-- What is done to each part in front of any others is done to all of them. -/
theorem replaceGroups_flatMap {before after : Part → List Char}
    (each : ∀ part rest, replaceGroups opening write (before part ++ rest) =
      after part ++ replaceGroups opening write rest) (parts : List Part) :
    replaceGroups opening write (parts.flatMap before) = parts.flatMap after := by
  induction parts with
  | nil => exact replaceGroups_nil
  | cons part rest ih => rw [List.flatMap_cons, each, ih, List.flatMap_cons]

end

theorem not_catchAll_of_plain {name : GroupName} (plain : ¬ "...".toList <+: name.text)
    (rest : List Char) : ¬ catchAllOpening <+: '[' :: (name.text ++ ']' :: rest) := by
  have opening : catchAllOpening = '[' :: "...".toList := by decide
  rw [opening, List.prefix_cons_inj]
  exact fun starts => plain (prefix_before (by decide) starts)

theorem replaceGroups_write (part : Part) (rest : List Char) :
    replaceGroups catchAllOpening (fun _ => ['*']) (part.write ++ rest) =
      part.starred ++ replaceGroups catchAllOpening (fun _ => ['*']) rest := by
  have opens : catchAllOpening.head? = some '[' := by decide
  cases part with
  | text characters free => exact replaceGroups_append opens free rest
  | parameter name plain =>
    have inside : '[' ∉ name.text ++ [']'] := by simp [name.no_opening]
    have none : group? catchAllOpening ('[' :: (name.text ++ ([']'] ++ rest))) = none :=
      group?_eq_none (not_catchAll_of_plain plain rest)
    simp only [Part.starred, Part.write, List.cons_append]
    rw [← replaceGroups_append opens inside, List.append_assoc, replaceGroups_cons none]
  | catchAll name =>
    have found := group?_of_name catchAllOpening name rest
    simp only [Part.starred, Part.write, List.append_assoc, List.singleton_append]
    exact replaceGroups_of_group found

theorem replaceGroups_starred (part : Part) (rest : List Char) :
    replaceGroups dynamicOpening (':' :: ·) (part.starred ++ rest) =
      part.token ++ replaceGroups dynamicOpening (':' :: ·) rest := by
  have opens : dynamicOpening.head? = some '[' := by decide
  cases part with
  | text characters free => exact replaceGroups_append opens free rest
  | parameter name plain =>
    have found := group?_of_name dynamicOpening name rest
    simp only [Part.starred, Part.write, Part.token, List.cons_append, List.append_assoc]
    exact replaceGroups_of_group found
  | catchAll name =>
    have star : '[' ∉ ['*'] := by decide
    exact replaceGroups_append opens star rest

/-- One replacement after the other gives every part its own form. -/
theorem replaceGroups_parts (parts : List Part) :
    replaceGroups dynamicOpening (':' :: ·)
        (replaceGroups catchAllOpening (fun _ => ['*']) (parts.flatMap Part.write)) =
      parts.flatMap Part.token := by
  rw [replaceGroups_flatMap replaceGroups_write, replaceGroups_flatMap replaceGroups_starred]

theorem dropEnding_append (ending text : List Char) :
    dropEnding ending (text ++ ending) = text := by
  rw [dropEnding, if_pos (by simp)]
  simp

theorem dropEnding_of_other {ending text : List Char} (other : ¬ ending <:+ text)
    (fed : ¬ ending ++ ['\n'] <:+ text) : dropEnding ending text = text := by
  rw [dropEnding, if_neg (by simpa using other), if_neg (by simpa using fed)]

theorem dropEnding_index {text : List Char} (slashless : '/' ∉ text) :
    dropEnding "/index".toList text = text := by
  apply dropEnding_of_other
  · exact fun ends => slashless (ends.subset (by decide))
  · exact fun ends => slashless (ends.subset (by decide))

theorem dropExtension_of_bare {text : List Char} (bare : ∀ extension ∈ pageExtensions,
      ¬ extension.toList <:+ text ∧ ¬ extension.toList ++ ['\n'] <:+ text) :
    dropExtension text = text := by
  have first := bare ".tsx" (by decide)
  have second := bare ".jsx" (by decide)
  rw [dropExtension]
  simp only [dropEnding_of_other first.1 first.2, dropEnding_of_other second.1 second.2, if_true]

theorem dropExtension_append (text : List Char) {extension : String}
    (known : extension ∈ pageExtensions) : dropExtension (text ++ extension.toList) = text := by
  simp only [pageExtensions, List.mem_cons, List.not_mem_nil, or_false] at known
  rcases known with rfl | rfl
  · have longer : text ≠ text ++ ".tsx".toList := by simp
    rw [dropExtension]
    simp only [dropEnding_append, if_neg longer]
  · -- Two endings of one text are endings of each other.
    have ends : ".jsx".toList <:+ text ++ ".jsx".toList := List.suffix_append _ _
    have other : dropEnding ".tsx".toList (text ++ ".jsx".toList) = text ++ ".jsx".toList := by
      apply dropEnding_of_other
      · intro same
        exact absurd (List.suffix_of_suffix_length_le same ends (by decide)) (by decide)
      · intro same
        exact absurd (List.suffix_of_suffix_length_le ends same (by decide)) (by decide)
    rw [dropExtension]
    simp only [other, if_true, dropEnding_append]

theorem tokenChars_of_slashless {raw stem : List Char} (slashless : '/' ∉ stem)
    (straight : '\\' ∉ raw) (left : dropExtension raw = stem) :
    tokenChars raw = replaceGroups dynamicOpening (':' :: ·)
      (replaceGroups catchAllOpening (fun _ => ['*'])
        (if stem = "index".toList then [] else stem)) := by
  have same : raw.map (fun c => if c = '\\' then '/' else c) = raw := by
    refine (List.map_congr_left fun c member => if_neg ?_).trans (List.map_id raw)
    rintro rfl
    exact straight member
  rw [tokenChars, same, left]
  simp only [dropEnding_index slashless]

theorem token_of_left {raw stem : String} {parts : List Part}
    (written : stem.toList = parts.flatMap Part.write) (slashless : '/' ∉ stem.toList)
    (straight : '\\' ∉ raw.toList) (left : dropExtension raw.toList = stem.toList) :
    token raw = if stem = "index" then "" else String.ofList (parts.flatMap Part.token) := by
  rw [token, tokenChars_of_slashless slashless straight left]
  by_cases index : stem = "index"
  · rw [if_pos index, if_pos (congrArg String.toList index), replaceGroups_nil, replaceGroups_nil,
      String.ofList_nil]
  · have other : stem.toList ≠ "index".toList := fun same => index (String.toList_inj.1 same)
    rw [if_neg index, if_neg other, written, replaceGroups_parts]

def HasCatchAll (parts : List Part) : Prop := ∃ name, Part.catchAll name ∈ parts

def HasParameter (parts : List Part) : Prop := ∃ name plain, Part.parameter name plain ∈ parts

theorem occurs_of_starts {run text : List Char} (starts : run <+: text) :
    occurs run text = true := by
  cases text with
  | nil => simpa [occurs] using starts
  | cons c rest => rw [occurs, List.isPrefixOf_iff_prefix.2 starts, Bool.true_or]

theorem occurs_cons_of_apart {run rest : List Char} {c : Char}
    (apart : ¬ run <+: c :: rest) : occurs run (c :: rest) = occurs run rest := by
  rw [← List.isPrefixOf_iff_prefix, Bool.not_eq_true] at apart
  rw [occurs, apart, Bool.false_or]

theorem occurs_append {front : List Char} (free : '[' ∉ front) (rest : List Char) :
    occurs catchAllOpening (front ++ rest) = occurs catchAllOpening rest := by
  have opens : catchAllOpening.head? = some '[' := by decide
  induction front with
  | nil => rfl
  | cons c front ih =>
    simp only [List.mem_cons, not_or] at free
    rw [List.cons_append,
      occurs_cons_of_apart (not_prefix_of_head opens (Ne.symm free.1)), ih free.2]

/-- The opening of a catch-all occurs in a name exactly if one of its parts is a catch-all. -/
theorem occurs_parts_iff (parts : List Part) {rest : List Char} (free : '[' ∉ rest) :
    occurs catchAllOpening (parts.flatMap Part.write ++ rest) = true ↔ HasCatchAll parts := by
  induction parts with
  | nil =>
    have none := occurs_append free []
    rw [List.append_nil] at none
    rw [List.flatMap_nil, List.nil_append, none]
    exact iff_of_false (by decide) fun ⟨_, listed⟩ => List.not_mem_nil listed
  | cons part others ih =>
    rw [List.flatMap_cons, List.append_assoc]
    cases part with
    | text characters clear =>
      rw [Part.write, occurs_append clear, ih]
      simp [HasCatchAll]
    | parameter name plain =>
      have inside : '[' ∉ name.text ++ [']'] := by simp [name.no_opening]
      have apart : ¬ catchAllOpening <+:
          '[' :: (name.text ++ [']'] ++ (others.flatMap Part.write ++ rest)) := by
        rw [List.append_assoc]
        exact not_catchAll_of_plain plain _
      rw [Part.write, List.cons_append, occurs_cons_of_apart apart, occurs_append inside, ih]
      simp [HasCatchAll]
    | catchAll name =>
      have starts : catchAllOpening <+:
          (Part.catchAll name).write ++ (others.flatMap Part.write ++ rest) := by
        rw [Part.write, List.append_assoc]
        exact List.prefix_append _ _
      exact iff_of_true (occurs_of_starts starts) ⟨name, List.mem_cons_self⟩

theorem bracket_mem_parts_iff (parts : List Part) :
    '[' ∈ parts.flatMap Part.write ↔ HasCatchAll parts ∨ HasParameter parts := by
  rw [List.mem_flatMap]
  constructor
  · rintro ⟨part, listed, bracket⟩
    cases part with
    | text characters free => exact absurd bracket free
    | parameter name plain => exact .inr ⟨name, plain, listed⟩
    | catchAll name => exact .inl ⟨name, listed⟩
  · rintro (⟨name, listed⟩ | ⟨name, plain, listed⟩)
    · exact ⟨_, listed, by simp [Part.write]⟩
    · exact ⟨_, listed, List.mem_cons_self⟩

theorem rank_parts {name : String} {parts : List Part} {ending : List Char}
    (written : name.toList = parts.flatMap Part.write ++ ending) (free : '[' ∉ ending) :
    (HasCatchAll parts → rank name = .catchAll) ∧
    (¬ HasCatchAll parts → HasParameter parts → rank name = .dynamic) ∧
    (¬ HasCatchAll parts → ¬ HasParameter parts →
      rank name = if startsWith "index." name then .index else .literal) := by
  have catchAll := occurs_parts_iff parts free
  have bracket : name.toList.contains '[' = true ↔ HasCatchAll parts ∨ HasParameter parts := by
    rw [List.contains_iff_mem, written, List.mem_append, bracket_mem_parts_iff]
    exact or_iff_left free
  rw [← written] at catchAll
  refine ⟨fun some => ?_, fun none some => ?_, fun none plain => ?_⟩
  · exact if_pos (catchAll.2 some)
  · exact (if_neg fun found => none (catchAll.1 found)).trans (if_pos (bracket.2 (.inr some)))
  · exact (if_neg fun found => none (catchAll.1 found)).trans
      (if_neg fun found => (bracket.1 found).elim none plain)

/-- A name without slashes and extension has the token that its parts make, or the empty one if it
is that of an index, and so have the files of this name. The rank of such a file is that of a
catch-all exactly if there is one among the parts, and that of a parameter exactly if there are
parameters only; without groups it depends on how the name starts. -/
theorem token_of_parts {stem : String} {parts : List Part}
    (written : stem.toList = parts.flatMap Part.write)
    (slashless : '/' ∉ stem.toList ∧ '\\' ∉ stem.toList)
    (bare : ∀ extension ∈ pageExtensions,
      ¬ extension.toList <:+ stem.toList ∧ ¬ extension.toList ++ ['\n'] <:+ stem.toList) :
    let shown := if stem = "index" then "" else String.ofList (parts.flatMap Part.token)
    token stem = shown ∧
    ∀ extension ∈ pageExtensions,
      token (stem ++ extension) = shown ∧
      ((rank (stem ++ extension)).level = 3 ↔ HasCatchAll parts) ∧
      ((rank (stem ++ extension)).level = 2 ↔ ¬ HasCatchAll parts ∧ HasParameter parts) ∧
      (¬ HasCatchAll parts → ¬ HasParameter parts →
        (rank (stem ++ extension)).level =
          if startsWith "index." (stem ++ extension) then 0 else 1) := by
  intro shown
  refine ⟨token_of_left written slashless.1 slashless.2 (dropExtension_of_bare bare),
    fun extension known => ?_⟩
  have plain : '[' ∉ extension.toList ∧ '\\' ∉ extension.toList := by
    revert extension
    decide
  have named : (stem ++ extension).toList = stem.toList ++ extension.toList :=
    String.toList_append
  have straight : '\\' ∉ (stem ++ extension).toList := by
    rw [named, List.mem_append]
    exact fun found => found.elim slashless.2 plain.2
  have left : dropExtension (stem ++ extension).toList = stem.toList := by
    rw [named]
    exact dropExtension_append stem.toList known
  refine ⟨token_of_left written slashless.1 straight left, ?_⟩
  rw [written] at named
  obtain ⟨catchAll, parameter, other⟩ := rank_parts named plain.1
  by_cases some : HasCatchAll parts
  · rw [catchAll some]
    simp [some, Rank.level]
  · by_cases dynamic : HasParameter parts
    · rw [parameter some dynamic]
      simp [some, dynamic, Rank.level]
    · rw [other some dynamic]
      split <;> simp [some, dynamic, Rank.level]

/-- A text with a closing bracket in front of a parameter with a dot and of a catch-all. -/
theorem token_of_mixed_parts :
    let stem := "docs]-[.id][...rest]"
    let parts : List Part := [.text "docs]-".toList (by decide),
      .parameter ⟨".id".toList, by decide, by decide, by decide⟩ (by decide),
      .catchAll ⟨"rest".toList, by decide, by decide, by decide⟩]
    stem.toList = parts.flatMap Part.write ∧
      ('/' ∉ stem.toList ∧ '\\' ∉ stem.toList) ∧
      (∀ extension ∈ pageExtensions,
        ¬ extension.toList <:+ stem.toList ∧ ¬ extension.toList ++ ['\n'] <:+ stem.toList) ∧
      token stem = "docs]-:.id*" ∧ token (stem ++ ".tsx") = "docs]-:.id*" ∧
      (rank (stem ++ ".tsx")).level = 3 := by
  intro stem parts
  have written : stem.toList = parts.flatMap Part.write := by decide
  have slashless : '/' ∉ stem.toList ∧ '\\' ∉ stem.toList := by decide
  have bare : ∀ extension ∈ pageExtensions,
      ¬ extension.toList <:+ stem.toList ∧ ¬ extension.toList ++ ['\n'] <:+ stem.toList := by
    decide
  obtain ⟨directory, files⟩ := token_of_parts written slashless bare
  obtain ⟨file, catchAll, _⟩ := files ".tsx" (by decide)
  have shown : (if stem = "index" then "" else String.ofList (parts.flatMap Part.token)) =
      "docs]-:.id*" := by
    decide
  exact ⟨written, slashless, bare, directory.trans shown, file.trans shown,
    catchAll.2 ⟨_, List.mem_of_getElem? (show parts[2]? = some _ from rfl)⟩⟩

end PageRoutes.Route
