import PageRoutes.Proofs.Declaration.Blocks

/-! The text of declarations is the text of their outline.

As long as no path and no component holds a line boundary, each block of the text is one line,
behind two spaces for each open group. Main statement: such a text reads back as the
declarations, provided that no path holds a double quote.
-/

set_option autoImplicit false

namespace PageRoutes.Declaration

def IsWhole (text : String) : Prop :=
  ∀ c ∈ text.toList, Text.isLineBoundary c = false

instance : DecidablePred IsWhole := fun text =>
  decidable_of_iff (text.toList.all fun c => !Text.isLineBoundary c) (by simp [IsWhole])

/-- A text that can stand in a line and between double quotes. -/
def IsQuotable (text : String) : Prop :=
  ∀ c ∈ text.toList, c ≠ '"' ∧ Text.isLineBoundary c = false

instance : DecidablePred IsQuotable := fun text =>
  decidable_of_iff (text.toList.all fun c => c ≠ '"' && !Text.isLineBoundary c)
    (by simp [IsQuotable])

/-- A component that can stand in a line and in front of a space. -/
def IsWord (text : String) : Prop :=
  ∀ c ∈ text.toList, c ≠ ' ' ∧ Text.isLineBoundary c = false

inductive Legible : Declaration → Prop where
  | index {component : String} : IsWord component → Legible (.index component)
  | page {path component : String} : IsQuotable path → IsWord component →
      Legible (.page path component)
  | group {path : String} {layout : Option String} {inner : List Declaration} :
      IsQuotable path → (∀ component ∈ layout, IsWord component) →
      (∀ declaration ∈ inner, Legible declaration) → Legible (.group path layout inner)

/-- A line that is read back, and that is a line of its own when it is written. -/
structure Line.IsPlain (line : Line) : Prop where
  readable : line.IsReadable
  written : Text.IsLine line.write.toList

theorem isLine_of_marked {line : List Char} (marked : '<' ∈ line)
    (whole : ∀ c ∈ line, Text.isLineBoundary c = false) : Text.IsLine line := by
  refine ⟨?_, whole⟩
  rw [List.all_eq_false]
  exact ⟨'<', marked, by decide⟩

theorem whole_append {first second : String} (front : IsWhole first) (back : IsWhole second) :
    IsWhole (first ++ second) := by
  intro c member
  rw [String.toList_append, List.mem_append] at member
  exact member.elim (front c) (back c)

theorem whole_element {component : String} (word : IsWord component) :
    IsWhole (element component) :=
  whole_append (whole_append (by decide) fun c member => (word c member).2) (by decide)

theorem whole_pathAttribute {path : String} (quotable : IsQuotable path) :
    IsWhole (pathAttribute path) :=
  whole_append (whole_append (by decide) fun c member => (quotable c member).2) (by decide)

theorem IsWord.no_space {component : String} (word : IsWord component) :
    ' ' ∉ component.toList := fun member => (word ' ' member).1 rfl

theorem IsQuotable.no_quote {path : String} (quotable : IsQuotable path) :
    '"' ∉ path.toList := fun member => (quotable '"' member).1 rfl

theorem isPlain_index {component : String} (word : IsWord component) :
    (Line.index component).IsPlain :=
  ⟨word.no_space, isLine_of_marked (by simp [Line.write])
    (whole_append (whole_append (by decide) (whole_element word)) (by decide))⟩

theorem isPlain_page {path component : String} (quotable : IsQuotable path)
    (word : IsWord component) : (Line.page path component).IsPlain :=
  ⟨⟨quotable.no_quote, word.no_space⟩, isLine_of_marked (by simp [Line.write])
    (whole_append (whole_append (whole_append (whole_append (by decide)
      (whole_pathAttribute quotable)) (by decide)) (whole_element word)) (by decide))⟩

theorem isPlain_opening {path : String} {layout : Option String} (quotable : IsQuotable path)
    (words : ∀ component ∈ layout, IsWord component) : (Line.opening path layout).IsPlain := by
  refine ⟨⟨quotable.no_quote, fun component member => (words component member).no_space⟩, ?_⟩
  cases layout with
  | none =>
    exact isLine_of_marked (by simp [Line.write])
      (whole_append (whole_append (by decide) (whole_pathAttribute quotable)) (by decide))
  | some component =>
    have word := words component rfl
    exact isLine_of_marked (by simp [Line.write])
      (whole_append (whole_append (whole_append (whole_append (by decide)
        (whole_pathAttribute quotable)) (by decide)) (whole_element word)) (by decide))

theorem isPlain_closing : Line.closing.IsPlain :=
  ⟨trivial, isLine_of_marked (by decide) (show IsWhole Line.closing.write by decide)⟩

theorem isPlain_of_mem_outline {declaration : Declaration} (legible : declaration.Legible)
    {depth : Nat} {entry : Nat × Line} (member : entry ∈ declaration.outline depth) :
    entry.2.IsPlain := by
  induction declaration using innerFirst generalizing depth with
  | index component =>
    cases legible with
    | index word =>
      rw [outline, List.mem_singleton] at member
      exact member ▸ isPlain_index word
  | page path component =>
    cases legible with
    | page quotable word =>
      rw [outline, List.mem_singleton] at member
      exact member ▸ isPlain_page quotable word
  | group path layout inner ih =>
    cases legible with
    | group quotable words below =>
      rw [outline, outlineAll_eq, List.cons_append, List.mem_cons, List.mem_append,
        List.mem_singleton] at member
      rcases member with rfl | inside | rfl
      · exact isPlain_opening quotable words
      · obtain ⟨declaration, listed, found⟩ := List.mem_flatMap.1 inside
        exact ih declaration listed (below declaration listed) found
      · exact isPlain_closing

def writeEntry (entry : Nat × Line) : List Char :=
  List.replicate (indentWidth * entry.1) ' ' ++ entry.2.write.toList

theorem isLine_writeEntry {entry : Nat × Line} (plain : entry.2.IsPlain) :
    Text.IsLine (writeEntry entry) := by
  apply plain.written.append
  intro c member
  rw [(List.mem_replicate.1 member).2]
  decide

theorem block_of_plain {entry : Nat × Line} (plain : entry.2.IsPlain) :
    block 0 entry = writeEntry entry := by
  obtain ⟨depth, line⟩ := entry
  rw [block_of_unbroken plain.written.whole, Nat.zero_add, writeEntry]

theorem toList_intercalate_render {declarations : List Declaration}
    (legible : ∀ declaration ∈ declarations, declaration.Legible) :
    ("\n".intercalate (declarations.map render)).toList =
      Text.joinLines ((outlineAll 0 declarations).map writeEntry) := by
  rw [toList_intercalate_render_eq_blocks]
  congr 1
  apply List.map_congr_left
  intro entry member
  rw [outlineAll_eq] at member
  obtain ⟨declaration, listed, found⟩ := List.mem_flatMap.1 member
  exact block_of_plain (isPlain_of_mem_outline (legible declaration listed) found)

/-- Reads declarations back from a text, line by line. -/
def readText? (text : String) : Option (List Declaration) :=
  ofLines? ((Text.lines text.toList).map fun line =>
    line.takeWhile fun c => !Text.isLineBoundary c)

theorem readMargin?_writeEntry {entry : Nat × Line} (plain : entry.2.IsPlain) :
    readMargin? (writeEntry entry) = some entry := by
  obtain ⟨depth, line⟩ := entry
  obtain ⟨rest, starts⟩ := exists_write_eq line
  have spaces : ∀ c ∈ List.replicate (indentWidth * depth) ' ', decide (c = ' ') = true :=
    fun c member => by simp [(List.mem_replicate.1 member).2]
  have margin : (writeEntry (depth, line)).takeWhile (fun c => decide (c = ' ')) =
      List.replicate (indentWidth * depth) ' ' := by
    rw [writeEntry, starts, List.takeWhile_append_of_pos spaces,
      List.takeWhile_cons_of_neg (by decide), List.append_nil]
  have behind : (writeEntry (depth, line)).dropWhile (fun c => decide (c = ' ')) =
      line.write.toList := by
    rw [writeEntry, starts, List.dropWhile_append_of_pos spaces,
      List.dropWhile_cons_of_neg (by decide)]
  rw [readMargin?, margin, behind, Line.read?_write plain.readable, List.length_replicate,
    if_pos (Nat.mul_mod_right indentWidth depth), Option.map_some,
    Nat.mul_div_cancel_left depth (by decide)]

theorem mapM_readMargin? {entries : List (Nat × Line)}
    (plain : ∀ entry ∈ entries, entry.2.IsPlain) :
    (entries.map writeEntry).mapM readMargin? = some entries := by
  induction entries with
  | nil => rfl
  | cons entry rest ih =>
    rw [List.map_cons, List.mapM_cons, readMargin?_writeEntry (plain entry List.mem_cons_self),
      ih fun other member => plain other (List.mem_cons_of_mem _ member)]
    rfl

/-- Reading the text of legible declarations gives the declarations back. -/
theorem readText?_intercalate_render {declarations : List Declaration}
    (legible : ∀ declaration ∈ declarations, declaration.Legible) :
    readText? ("\n".intercalate (declarations.map render)) = some declarations := by
  have plain : ∀ entry ∈ outlineAll 0 declarations, entry.2.IsPlain := by
    intro entry member
    rw [outlineAll_eq] at member
    obtain ⟨declaration, listed, found⟩ := List.mem_flatMap.1 member
    exact isPlain_of_mem_outline (legible declaration listed) found
  have lines : ∀ line ∈ (outlineAll 0 declarations).map writeEntry, Text.IsLine line := by
    intro line member
    obtain ⟨entry, listed, rfl⟩ := List.mem_map.1 member
    exact isLine_writeEntry (plain entry listed)
  rw [readText?, toList_intercalate_render legible, Text.lines_joinLines lines, ofLines?,
    mapM_readMargin? plain, Option.bind_some, ofOutline?_outlineAll]

end PageRoutes.Declaration
