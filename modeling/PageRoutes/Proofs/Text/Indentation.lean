import PageRoutes.Proofs.Text.JoinedLines

/-! Indenting any text, whatever boundaries it holds.

A statement about a text is proved line by line, along the way in which it is cut. Indenting
again adds up the margins, and texts with line feeds between them are indented one by one, even
where they hold boundaries of their own. What stands inside a visible line comes out as it went
in exactly if it holds no boundary.
-/

set_option autoImplicit false

namespace PageRoutes.Text

def Unbroken (text : List Char) : Prop := ∀ c ∈ text, isLineBoundary c = false

instance : DecidablePred Unbroken := fun text =>
  decidable_of_iff (text.all fun c => !isLineBoundary c) (by simp [Unbroken])

theorem unbroken_nil : Unbroken [] := List.forall_mem_nil _

theorem unbroken_append_iff {first second : List Char} :
    Unbroken (first ++ second) ↔ Unbroken first ∧ Unbroken second :=
  List.forall_mem_append

/-- A boundary in front of the rest of a text. A carriage return takes a line feed along. -/
inductive Ends : List Char → List Char → Prop where
  | both (rest : List Char) : Ends ['\r', '\n'] rest
  | one {c : Char} {rest : List Char} : isLineBoundary c = true →
      (c = '\r' → rest.head? ≠ some '\n') → Ends [c] rest

/-- A text and its lines: each goes up to a boundary, and only the last one may do without. -/
inductive Cut : List Char → List (List Char) → Prop where
  | nil : Cut [] []
  | last {row : List Char} : row ≠ [] → Unbroken row → Cut row [row]
  | line {row ending rest : List Char} {others : List (List Char)} : Unbroken row →
      Ends ending rest → Cut rest others → Cut (row ++ (ending ++ rest)) ((row ++ ending) :: others)

theorem cut_lines (text : List Char) : Cut text (lines text) := by
  fun_induction lines text with
  | case1 => exact .nil
  | case2 rest ih => exact .line unbroken_nil (.both rest) ih
  | case3 c rest single boundary ih =>
    refine .line unbroken_nil (.one boundary fun isReturn => ?_) ih
    intro feed
    obtain ⟨others, rfl⟩ := List.head?_eq_some_iff.1 feed
    exact single others isReturn rfl
  | case4 c rest single inside empty ih =>
    have nothing : rest = [] := by rw [← flatten_lines rest, empty, List.flatten_nil]
    subst nothing
    exact .last (List.cons_ne_nil c []) (by simpa [Unbroken] using inside)
  | case5 c rest single inside first others found ih =>
    -- No line ends here, so the character joins the first line of the rest.
    rw [found] at ih
    have open' : ∀ row, Unbroken row → Unbroken (c :: row) := fun row unbroken =>
      List.forall_mem_cons.2 ⟨by simpa using inside, unbroken⟩
    cases ih with
    | last nonempty unbroken => exact .last (List.cons_ne_nil c _) (open' _ unbroken)
    | @line row ending rest _ unbroken ends below =>
      exact Cut.line (open' row unbroken) ends below

theorem exists_cut (text : List Char) : ∃ parts, Cut text parts := ⟨_, cut_lines text⟩

theorem lines_append_ending {row ending rest : List Char} (unbroken : Unbroken row)
    (ends : Ends ending rest) : lines (row ++ (ending ++ rest)) = (row ++ ending) :: lines rest := by
  induction row with
  | nil =>
    cases ends with
    | both => rfl
    | @one c _ boundary alone =>
      rw [List.nil_append, List.nil_append, List.singleton_append, lines, if_pos boundary]
      rintro others isReturn rfl
      exact alone isReturn rfl
  | cons c row ih =>
    obtain ⟨head, tail⟩ := List.forall_mem_cons.1 unbroken
    have notReturn : c ≠ '\r' := by rintro rfl; simp [isLineBoundary] at head
    rw [List.cons_append, lines, if_neg (by simp [head]), ih tail]
    · rfl
    · exact fun _ isReturn => absurd isReturn notReturn

theorem indentChars_append_ending {row ending rest : List Char} (margin : List Char)
    (unbroken : Unbroken row) (ends : Ends ending rest) :
    indentChars margin (row ++ (ending ++ rest)) =
      indentLine margin (row ++ ending) ++ indentChars margin rest := by
  rw [indentChars, lines_append_ending unbroken ends, List.map_cons, List.flatten_cons,
    indentChars]

theorem indentChars_of_unbroken {row : List Char} (margin : List Char) (unbroken : Unbroken row) :
    indentChars margin row = indentLine margin row := by
  by_cases empty : row = []
  · subst empty
    rfl
  · rw [indentChars, lines_of_no_boundary row empty unbroken, List.map_singleton,
      List.flatten_singleton]

theorem indentLine_cases (margin line : List Char) :
    indentLine margin line = line ∨ indentLine margin line = margin ++ line := by
  unfold indentLine
  split
  · exact .inl rfl
  · exact .inr rfl

theorem indentLine_append_newline (margin line : List Char) :
    indentLine margin (line ++ ['\n']) = indentLine margin line ++ ['\n'] := by
  have blank : (line ++ ['\n']).all isBlank = line.all isBlank := by
    simp [isBlank_newline]
  rw [indentLine, indentLine, blank]
  split
  · rfl
  · rw [List.append_assoc]

theorem indentChars_append_newline (margin first rest : List Char) :
    indentChars margin (first ++ '\n' :: rest) =
      indentChars margin first ++ '\n' :: indentChars margin rest := by
  have feed : Ends ['\n'] rest := .one isLineBoundary_newline fun isReturn => by cases isReturn
  have atOnce : ∀ row, Unbroken row → indentChars margin (row ++ '\n' :: rest) =
      indentLine margin row ++ '\n' :: indentChars margin rest := by
    intro row unbroken
    have step := indentChars_append_ending margin unbroken feed
    rw [indentLine_append_newline] at step
    simpa using step
  obtain ⟨parts, cut⟩ := exists_cut first
  induction cut with
  | nil => exact atOnce [] unbroken_nil
  | last nonempty unbroken =>
    rw [atOnce _ unbroken, indentChars_of_unbroken margin unbroken]
  | @line row ending others _ unbroken ends _ ih =>
    rw [indentChars_append_ending margin unbroken ends]
    by_cases taken : ending = ['\r'] ∧ others = []
    · -- The carriage return at the end of the first text takes the line feed along.
      obtain ⟨rfl, rfl⟩ := taken
      have step := indentChars_append_ending margin unbroken (.both rest)
      have pair : row ++ ['\r', '\n'] = row ++ ['\r'] ++ ['\n'] := by simp
      rw [pair, indentLine_append_newline] at step
      simpa [indentChars, lines] using step
    · have still : Ends ending (others ++ '\n' :: rest) := by
        cases ends with
        | both => exact .both _
        | one boundary alone =>
          refine .one boundary fun isReturn => ?_
          subst isReturn
          cases others with
          | nil => exact absurd ⟨rfl, rfl⟩ taken
          | cons c others => exact alone rfl
      have step := indentChars_append_ending margin unbroken still
      rw [ih] at step
      simpa using step

theorem indentChars_joinLines (margin : List Char) (parts : List (List Char)) :
    indentChars margin (joinLines parts) = joinLines (parts.map (indentChars margin)) := by
  induction parts with
  | nil => rfl
  | cons first rest ih =>
    cases rest with
    | nil => simp [joinLines]
    | cons second others =>
      rw [joinLines_cons_cons, indentChars_append_newline, ih, List.map_cons, List.map_cons,
        List.map_cons, joinLines_cons_cons]

theorem head?_indentLine_append {margin line : List Char} (free : Unbroken margin)
    (nonempty : line ≠ []) {behind : List Char}
    (feed : (indentLine margin line ++ behind).head? = some '\n') : line.head? = some '\n' := by
  obtain ⟨c, tail, rfl⟩ := List.exists_cons_of_ne_nil nonempty
  rcases indentLine_cases margin (c :: tail) with same | shifted
  · rw [same] at feed
    exact feed
  · rw [shifted] at feed
    cases margin with
    | nil => exact feed
    | cons d margin =>
      have boundary := free d List.mem_cons_self
      rw [Option.some.inj feed, isLineBoundary_newline] at boundary
      cases boundary

theorem Ends.indent {margin ending rest : List Char} (free : Unbroken margin)
    (ends : Ends ending rest) : Ends ending (indentChars margin rest) := by
  cases ends with
  | both => exact .both _
  | one boundary alone =>
    -- Indenting never brings a line feed to the front of the rest.
    refine .one boundary fun isReturn feed => alone isReturn ?_
    obtain ⟨parts, cut⟩ := exists_cut rest
    cases cut with
    | nil => exact feed
    | last nonempty unbroken =>
      rw [indentChars_of_unbroken margin unbroken, ← List.append_nil (indentLine _ _)] at feed
      exact head?_indentLine_append free nonempty feed
    | @line row ending behind _ unbroken ends _ =>
      rw [indentChars_append_ending margin unbroken ends] at feed
      have filled : row ++ ending ≠ [] := by cases ends <;> simp
      have starts := head?_indentLine_append free filled feed
      rw [← List.append_assoc, List.head?_append, starts]
      rfl

/-- An indented text has the lines of the text, each of them indented. -/
theorem lines_indentChars {margin : List Char} (free : Unbroken margin) (text : List Char) :
    lines (indentChars margin text) = (lines text).map (indentLine margin) := by
  obtain ⟨parts, cut⟩ := exists_cut text
  induction cut with
  | nil => rfl
  | @last row nonempty unbroken =>
    have own : indentLine margin row ≠ [] ∧ Unbroken (indentLine margin row) := by
      rcases indentLine_cases margin row with same | shifted
      · rw [same]
        exact ⟨nonempty, unbroken⟩
      · rw [shifted]
        exact ⟨by simp [nonempty], unbroken_append_iff.2 ⟨free, unbroken⟩⟩
    rw [indentChars_of_unbroken margin unbroken, lines_of_no_boundary _ own.1 own.2,
      lines_of_no_boundary row nonempty unbroken, List.map_singleton]
  | @line row ending rest _ unbroken ends _ ih =>
    rw [indentChars_append_ending margin unbroken ends, lines_append_ending unbroken ends,
      List.map_cons, ← ih]
    rcases indentLine_cases margin (row ++ ending) with same | shifted
    · -- A blank line gets no margin.
      rw [same, List.append_assoc, lines_append_ending unbroken (ends.indent free)]
    · rw [shifted, ← List.append_assoc margin, List.append_assoc,
        lines_append_ending (unbroken_append_iff.2 ⟨free, unbroken⟩) (ends.indent free)]

theorem indentLine_indentLine (outer inner line : List Char) :
    indentLine outer (indentLine inner line) = indentLine (outer ++ inner) line := by
  cases blank : line.all isBlank with
  | true => simp [indentLine, blank]
  | false => simp [indentLine, blank]

theorem indentChars_indentChars {outer inner : List Char} (free : Unbroken inner)
    (text : List Char) :
    indentChars outer (indentChars inner text) = indentChars (outer ++ inner) text := by
  rw [indentChars, lines_indentChars free, List.map_map, indentChars]
  congr 2
  funext line
  exact indentLine_indentLine outer inner line

theorem unbroken_replicate_space (count : Nat) : Unbroken (List.replicate count ' ') := by
  intro c member
  rw [(List.mem_replicate.1 member).2]
  decide

theorem Ends.append_unbroken {ending rest behind : List Char} (ends : Ends ending rest)
    (whole : Unbroken behind) : Ends ending (rest ++ behind) := by
  cases ends with
  | both => exact .both _
  | one boundary alone =>
    refine .one boundary fun isReturn feed => ?_
    cases rest with
    | nil =>
      have inside := whole '\n' (List.mem_of_mem_head? (Option.mem_def.2 feed))
      rw [isLineBoundary_newline] at inside
      cases inside
    | cons c rest => exact alone isReturn feed

/-- A text that starts a line, in front of something visible, gets a margin and maybe more. -/
theorem exists_indentChars_append (margin text : List Char) {behind : List Char}
    (whole : Unbroken behind) (visible : behind.all isBlank = false) :
    ∃ shown, indentChars margin (text ++ behind) = shown ++ behind ∧
      margin.length + text.length ≤ shown.length ∧
      ∀ c, c ∉ margin → (c ∈ shown ↔ c ∈ text) := by
  have atOnce : ∀ row, Unbroken row →
      indentChars margin (row ++ behind) = margin ++ row ++ behind := by
    intro row unbroken
    rw [indentChars_of_unbroken margin (unbroken_append_iff.2 ⟨unbroken, whole⟩), indentLine,
      List.all_append, visible, Bool.and_false, List.append_assoc]
    rfl
  obtain ⟨parts, cut⟩ := exists_cut text
  induction cut with
  | nil => exact ⟨margin, by simpa using atOnce [] unbroken_nil, by simp, by simp⟩
  | @last row _ unbroken =>
    exact ⟨margin ++ row, atOnce row unbroken, by simp, fun c outside => by simp [outside]⟩
  | @line row ending rest _ unbroken ends _ ih =>
    obtain ⟨shown, rendered, long, same⟩ := ih
    refine ⟨indentLine margin (row ++ ending) ++ shown, ?_, ?_, ?_⟩
    · rw [List.append_assoc, List.append_assoc,
        indentChars_append_ending margin unbroken (ends.append_unbroken whole), rendered,
        List.append_assoc]
    · rcases indentLine_cases margin (row ++ ending) with equal | shifted
      · rw [equal]
        simp
        omega
      · rw [shifted]
        simp
        omega
    · intro c outside
      have kept : c ∈ indentLine margin (row ++ ending) ↔ c ∈ row ++ ending := by
        rcases indentLine_cases margin (row ++ ending) with equal | shifted
        · rw [equal]
        · rw [shifted, List.mem_append, or_iff_right outside]
      rw [List.mem_append, kept, same c outside, ← List.append_assoc, ← List.mem_append]

theorem exists_indentChars_opening {before : List Char} (open' : Unbroken before)
    (marked : before.all isBlank = false) (margin text : List Char) :
    ∃ shown, indentChars margin (before ++ text) = margin ++ (before ++ shown) := by
  obtain ⟨parts, cut⟩ := exists_cut text
  cases cut with
  | nil =>
    rw [List.append_nil, indentChars_of_unbroken margin open', indentLine, marked]
    exact ⟨[], by simp⟩
  | last _ unbroken =>
    rw [indentChars_of_unbroken margin (unbroken_append_iff.2 ⟨open', unbroken⟩)]
    exact ⟨text, indentLine_of_visible marked margin text⟩
  | @line row ending rest _ unbroken ends _ =>
    have first := indentChars_append_ending margin (unbroken_append_iff.2 ⟨open', unbroken⟩) ends
    rw [List.append_assoc, List.append_assoc, indentLine_of_visible marked] at first
    exact ⟨row ++ (ending ++ indentChars margin rest), by simpa using first⟩

/-- Inside a visible line a text comes out as it went in exactly if it holds no boundary. -/
theorem exists_indentChars_inside {margin : List Char} (filled : margin ≠ [])
    {before behind : List Char} (open' : Unbroken before) (marked : before.all isBlank = false)
    (whole : Unbroken behind) (visible : behind.all isBlank = false) (text : List Char) :
    ∃ shown, indentChars margin (before ++ (text ++ behind)) =
        margin ++ (before ++ (shown ++ behind)) ∧
      (shown = text ↔ Unbroken text) ∧ ∀ c, c ∉ margin → (c ∈ shown ↔ c ∈ text) := by
  have visibly : ∀ row, indentLine margin (before ++ row) = margin ++ (before ++ row) :=
    fun row => indentLine_of_visible marked margin row
  have atOnce : ∀ row, Unbroken row → indentChars margin (before ++ (row ++ behind)) =
      margin ++ (before ++ (row ++ behind)) := by
    intro row unbroken
    rw [indentChars_of_unbroken margin
      (unbroken_append_iff.2 ⟨open', unbroken_append_iff.2 ⟨unbroken, whole⟩⟩), visibly]
  obtain ⟨parts, cut⟩ := exists_cut text
  cases cut with
  | nil => exact ⟨[], atOnce [] unbroken_nil, by simp [Unbroken], by simp⟩
  | last _ unbroken => exact ⟨text, atOnce text unbroken, by simp [unbroken], by simp⟩
  | @line row ending rest _ unbroken ends _ =>
    obtain ⟨shown, rendered, long, same⟩ := exists_indentChars_append margin rest whole visible
    have first := indentChars_append_ending margin (unbroken_append_iff.2 ⟨open', unbroken⟩)
      (ends.append_unbroken whole)
    rw [List.append_assoc, List.append_assoc, visibly, rendered] at first
    refine ⟨row ++ (ending ++ shown), by simpa using first, ?_, ?_⟩
    · -- Every line behind a boundary of the text is longer than before.
      refine iff_of_false (fun equal => ?_) fun whole => ?_
      · have sizes := congrArg List.length equal
        have wide := List.length_pos_iff.2 filled
        simp only [List.length_append] at sizes
        omega
      · have inside := (unbroken_append_iff.1 (unbroken_append_iff.1 whole).2).1
        cases ends with
        | both => exact absurd (inside '\r' (by simp)) (by decide)
        | one boundary _ => simp [inside _ List.mem_cons_self] at boundary
    · intro c outside
      simp only [List.mem_append, same c outside]

end PageRoutes.Text
