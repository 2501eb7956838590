import Mathlib.Data.List.DropRight
import PageRoutes.Proofs.Declaration.Enclosure
import PageRoutes.Proofs.Declaration.PathAttribute

/-! The elements of written declarations, read off their texts.

A text that ends in itself is a leaf, and one that ends the component of an element without
ending in itself opens a group with a layout. Main statement: read one after the other, the
blocks of declarations give their leaves, each inside the elements that are open there.
-/

set_option autoImplicit false

namespace PageRoutes.Declaration

def before? (ending text : List Char) : Option (List Char) :=
  if ending.isSuffixOf text then some (text.take (text.length - ending.length)) else none

/-- The component of an element attribute right in front of an ending. -/
def elementBefore? (ending text : List Char) : Option String :=
  (before? ending text).bind fun named =>
    (behind? "element=\x7b<".toList (named.rtakeWhile (· ≠ ' '))).map String.ofList

def leafName? (text : List Char) : Option String := elementBefore? " />\x7d />".toList text

def layoutName? (text : List Char) : Option String := elementBefore? " />\x7d>".toList text

def placedName? (text : List Char) : Option String := (leafName? text).or (layoutName? text)

theorem before?_append (front ending : List Char) : before? ending (front ++ ending) = some front := by
  have ends : ending.isSuffixOf (front ++ ending) = true :=
    List.isSuffixOf_iff_suffix.2 (List.suffix_append front ending)
  rw [before?, if_pos ends, List.length_append, Nat.add_sub_cancel, List.take_left]

theorem before?_of_apart {ending other : List Char} (longer : ¬ other <:+ ending)
    (shorter : ¬ ending <:+ other) (front : List Char) : before? ending (front ++ other) = none := by
  have apart : ¬ ending <:+ front ++ other := fun ends =>
    (List.suffix_or_suffix_of_suffix ends (List.suffix_append front other)).elim shorter longer
  rw [before?, if_neg (mt List.isSuffixOf_iff_suffix.1 apart)]

theorem rtakeWhile_behind {c : Char} {word : List Char} (free : c ∉ word) (front : List Char) :
    (front ++ c :: word).rtakeWhile (· ≠ c) = word := by
  have turned : (front ++ c :: word).reverse = word.reverse ++ c :: front.reverse := by simp
  rw [List.rtakeWhile, turned, (cut_before front.reverse (by simpa using free)).1,
    List.reverse_reverse]

theorem elementBefore?_element {component : String} (free : ' ' ∉ component.toList)
    (front : List Char) (ending : String) :
    elementBefore? ending.toList (front ++ (" element=\x7b<" ++ component ++ ending).toList) =
      some component := by
  have named : ' ' ∉ "element=\x7b<".toList ++ component.toList := by
    rw [List.mem_append, not_or]
    exact ⟨by decide, free⟩
  have shape : front ++ (" element=\x7b<" ++ component ++ ending).toList =
      (front ++ ' ' :: ("element=\x7b<".toList ++ component.toList)) ++ ending.toList := by
    simp
  rw [shape, elementBefore?, before?_append, Option.bind_some, rtakeWhile_behind named,
    behind?_append, Option.map_some, String.ofList_toList]

theorem elementBefore?_of_apart {ending other : List Char} (longer : ¬ other <:+ ending)
    (shorter : ¬ ending <:+ other) (front : List Char) :
    elementBefore? ending (front ++ other) = none := by
  rw [elementBefore?, before?_of_apart longer shorter, Option.bind_none]

theorem placedName?_of_apart {other : List Char}
    (page : ¬ other <:+ " />\x7d />".toList ∧ ¬ " />\x7d />".toList <:+ other)
    (group : ¬ other <:+ " />\x7d>".toList ∧ ¬ " />\x7d>".toList <:+ other) (front : List Char) :
    placedName? (front ++ other) = none := by
  rw [placedName?, leafName?, layoutName?, elementBefore?_of_apart page.1 page.2,
    elementBefore?_of_apart group.1 group.2, Option.or_none]

def Line.ending : Line → String
  | .index component => " element=\x7b<" ++ component ++ " />\x7d />"
  | .page _ component => " element=\x7b<" ++ component ++ " />\x7d />"
  | .opening _ (some layout) => " element=\x7b<" ++ layout ++ " />\x7d>"
  | .opening _ none => "\">"
  | .closing => "</Route>"

theorem exists_write_eq_ending (line : Line) : ∃ text, line.write = text ++ line.ending := by
  cases line with
  | index component =>
    exact ⟨"<Route index", by simp [Line.write, Line.ending, element, ← String.toList_inj]⟩
  | page path component =>
    exact ⟨"<Route " ++ pathAttribute path,
      by simp [Line.write, Line.ending, element, ← String.toList_inj]⟩
  | opening path layout =>
    cases layout with
    | none =>
      exact ⟨"<Route path=\"" ++ path,
        by simp [Line.write, Line.ending, pathAttribute, ← String.toList_inj]⟩
    | some component =>
      exact ⟨"<Route " ++ pathAttribute path,
        by simp [Line.write, Line.ending, element, ← String.toList_inj]⟩
  | closing => exact ⟨"", by simp [Line.write, Line.ending]⟩

theorem whole_ending {line : Line} (words : ∀ component ∈ line.component?, IsWord component) :
    IsWhole line.ending := by
  have named : ∀ {component rest : String}, IsWord component → IsWhole rest →
      IsWhole (" element=\x7b<" ++ component ++ rest) := fun word whole =>
    whole_append (whole_append (by decide) fun c member => (word c member).2) whole
  cases line with
  | index component => exact named (words component rfl) (by decide)
  | page path component => exact named (words component rfl) (by decide)
  | opening path layout =>
    cases layout with
    | none => exact (by decide : IsWhole "\">")
    | some component => exact named (words component rfl) (by decide)
  | closing => exact (by decide : IsWhole "</Route>")

theorem visible_ending (line : Line) : line.ending.toList.all Text.isBlank = false := by
  have ends : ∃ text : String, line.ending = text ++ ">" := by
    cases line with
    | index component =>
      exact ⟨" element=\x7b<" ++ component ++ " />\x7d /", by simp [Line.ending, ← String.toList_inj]⟩
    | page path component =>
      exact ⟨" element=\x7b<" ++ component ++ " />\x7d /", by simp [Line.ending, ← String.toList_inj]⟩
    | opening path layout =>
      cases layout with
      | none => exact ⟨"\"", by simp [Line.ending]⟩
      | some component =>
        exact ⟨" element=\x7b<" ++ component ++ " />\x7d", by simp [Line.ending, ← String.toList_inj]⟩
    | closing => exact ⟨"</Route", by simp [Line.ending]⟩
  obtain ⟨text, shape⟩ := ends
  rw [shape, List.all_eq_false]
  exact ⟨'>', by simp, by decide⟩

theorem exists_block_ending {line : Line} (words : ∀ component ∈ line.component?, IsWord component)
    (margin depth : Nat) : ∃ front, block margin (depth, line) = front ++ line.ending.toList := by
  obtain ⟨text, written⟩ := exists_write_eq_ending line
  obtain ⟨front, indented, _⟩ := Text.exists_indentChars_append
    (List.replicate (margin + indentWidth * depth) ' ') text.toList (whole_ending words)
    (visible_ending line)
  exact ⟨front, by rw [block, written, String.toList_append, indented]⟩

def Line.leaf? : Line → Option String
  | .index component => some component
  | .page _ component => some component
  | _ => none

theorem leafName?_block {line : Line} (words : ∀ component ∈ line.component?, IsWord component)
    (margin depth : Nat) : leafName? (block margin (depth, line)) = line.leaf? := by
  obtain ⟨front, shape⟩ := exists_block_ending words margin depth
  rw [shape]
  cases line with
  | index component => exact elementBefore?_element (words component rfl).no_space front _
  | page path component => exact elementBefore?_element (words component rfl).no_space front _
  | opening path layout =>
    cases layout with
    | none =>
      exact elementBefore?_of_apart (show ¬ "\">".toList <:+ " />\x7d />".toList by decide)
        (by decide) front
    | some component =>
      rw [Line.ending, String.toList_append, ← List.append_assoc]
      exact elementBefore?_of_apart (by decide) (by decide) _
  | closing => exact elementBefore?_of_apart (by decide) (by decide) front

theorem layoutName?_block {line : Line} (words : ∀ component ∈ line.component?, IsWord component)
    (other : line.leaf? = none) (margin depth : Nat) :
    layoutName? (block margin (depth, line)) = line.component? := by
  obtain ⟨front, shape⟩ := exists_block_ending words margin depth
  rw [shape]
  cases line with
  | index component => cases other
  | page path component => cases other
  | opening path layout =>
    cases layout with
    | none =>
      exact elementBefore?_of_apart (show ¬ "\">".toList <:+ " />\x7d>".toList by decide)
        (by decide) front
    | some component => exact elementBefore?_element (words component rfl).no_space front _
  | closing => exact elementBefore?_of_apart (by decide) (by decide) front

theorem placedName?_block {line : Line} (words : ∀ component ∈ line.component?, IsWord component)
    (margin depth : Nat) : placedName? (block margin (depth, line)) = line.component? := by
  rw [placedName?, leafName?_block words]
  cases line with
  | index component => rfl
  | page path component => rfl
  | opening path layout => exact layoutName?_block words rfl margin depth
  | closing => exact layoutName?_block words rfl margin depth

def isClosing (text : List Char) : Bool := text.dropWhile (· = ' ') = "</Route>".toList

def isLeaf (text : List Char) : Bool := "/>".toList.isSuffixOf text

/-- The leaves among texts, each inside the elements that are open there, outermost first. -/
def readLeaves : List (List Char) → List (List Char) → List (List (List Char) × List Char)
  | [], _ => []
  | text :: rest, opened =>
    if isClosing text then readLeaves rest opened.dropLast
    else if isLeaf text then (opened, text) :: readLeaves rest opened
    else readLeaves rest (opened ++ [text])

theorem isClosing_block {line : Line} (margin depth : Nat) :
    isClosing (block margin (depth, line)) = true ↔ line = .closing := by
  have blank : ∀ c ∈ List.replicate (margin + indentWidth * depth) ' ', decide (c = ' ') = true :=
    fun c member => by simp [(List.mem_replicate.1 member).2]
  have opens : line ≠ .closing → ∃ rest, line.write.toList = "<Route ".toList ++ rest := by
    intro other
    cases line with
    | index component => exact ⟨_, by simp [Line.write]; rfl⟩
    | page path component => exact ⟨_, by simp [Line.write]; rfl⟩
    | opening path layout => cases layout <;> exact ⟨_, by simp [Line.write]; rfl⟩
    | closing => exact absurd rfl other
  constructor
  · intro closes
    by_contra other
    obtain ⟨rest, written⟩ := opens other
    obtain ⟨shown, shape⟩ := Text.exists_indentChars_opening
      (show Text.Unbroken "<Route ".toList by decide) (by decide)
      (List.replicate (margin + indentWidth * depth) ' ') rest
    rw [isClosing, block, written, shape, List.dropWhile_append_of_pos blank, decide_eq_true_iff]
      at closes
    have second := congrArg (fun text => text[1]?) closes
    simp at second
  · rintro rfl
    rw [block_of_unbroken isPlain_closing.written.whole, isClosing,
      List.dropWhile_append_of_pos blank]
    decide

theorem isLeaf_block {line : Line} (words : ∀ component ∈ line.component?, IsWord component)
    (margin depth : Nat) :
    isLeaf (block margin (depth, line)) = true ↔ (line.leaf?).isSome = true := by
  obtain ⟨front, shape⟩ := exists_block_ending words margin depth
  have ends : ∀ text ending : List Char, "/>".toList <:+ ending → "/>".toList <:+ text ++ ending :=
    fun text ending within => within.trans (List.suffix_append text ending)
  have apart : ∀ text ending : List Char, ¬ "/>".toList <:+ ending → ¬ ending <:+ "/>".toList →
      ¬ "/>".toList <:+ text ++ ending := fun text ending shorter longer within =>
    (List.suffix_or_suffix_of_suffix within (List.suffix_append text ending)).elim shorter longer
  rw [isLeaf, List.isSuffixOf_iff_suffix, shape]
  cases line with
  | index component =>
    refine iff_of_true ?_ rfl
    rw [Line.ending, String.toList_append, ← List.append_assoc]
    exact ends _ _ (by decide)
  | page path component =>
    refine iff_of_true ?_ rfl
    rw [Line.ending, String.toList_append, ← List.append_assoc]
    exact ends _ _ (by decide)
  | opening path layout =>
    refine iff_of_false ?_ (by simp [Line.leaf?])
    cases layout with
    | none => exact apart front "\">".toList (by decide) (by decide)
    | some component =>
      rw [Line.ending, String.toList_append, ← List.append_assoc]
      exact apart _ _ (by decide) (by decide)
  | closing =>
    refine iff_of_false ?_ (by simp [Line.leaf?])
    exact apart front "</Route>".toList (by decide) (by decide)

/-- The elements around a leaf as they are written, the outermost at this depth. -/
def openings (depth : Nat) (around : List Enclosure) : List (List Char) :=
  around.mapIdx fun position element =>
    block 0 (depth + position, .opening element.path element.layout)

def leafBlock (depth : Nat) (leaf : Declaration) : List Char :=
  Text.indentChars (List.replicate (indentWidth * depth) ' ') leaf.render.toList

def written (depth : Nat) (opened : List (List Char))
    (leaves : List (List Enclosure × Declaration)) : List (List (List Char) × List Char) :=
  leaves.map fun (around, leaf) =>
    (opened ++ openings depth around, leafBlock (depth + around.length) leaf)

theorem openings_cons (depth : Nat) (first : Enclosure) (around : List Enclosure) :
    openings depth (first :: around) =
      block 0 (depth, .opening first.path first.layout) :: openings (depth + 1) around := by
  rw [openings, List.mapIdx_cons, openings]
  simp only [Nat.add_zero, Nat.add_assoc, Nat.add_comm 1]

/-- Components of these declarations stand in their lines, and in front of a space. -/
def HaveWords (declarations : List Declaration) : Prop :=
  ∀ depth, ∀ entry ∈ outlineAll depth declarations, ∀ component ∈ entry.2.component?,
    IsWord component

theorem haveWords_of_outline {declarations : List Declaration}
    (words : ∀ entry ∈ outlineAll 0 declarations, ∀ component ∈ entry.2.component?,
      IsWord component) : HaveWords declarations := by
  intro depth
  induction depth with
  | zero => exact words
  | succ depth ih =>
    rw [outlineAll_succ]
    intro entry member
    obtain ⟨other, listed, rfl⟩ := List.mem_map.1 member
    exact ih other listed

theorem HaveWords.inner {path : String} {layout : Option String} {inner : List Declaration}
    (words : HaveWords [.group path layout inner]) : HaveWords inner := by
  apply haveWords_of_outline
  intro entry member
  have deeper : (entry.1 + 1, entry.2) ∈ outlineAll 0 [.group path layout inner] := by
    rw [outlineAll_eq, List.flatMap_singleton, outline, outlineAll_succ]
    refine List.mem_append_left _ (List.mem_cons_of_mem _ ?_)
    exact List.mem_map.2 ⟨entry, member, rfl⟩
  exact words 0 (entry.1 + 1, entry.2) deeper

theorem HaveWords.of_mem {declarations : List Declaration} (words : HaveWords declarations)
    {declaration : Declaration} (member : declaration ∈ declarations) :
    HaveWords [declaration] := by
  intro depth entry listed
  rw [outlineAll_eq, List.flatMap_singleton] at listed
  apply words depth
  rw [outlineAll_eq]
  exact List.mem_flatMap.2 ⟨declaration, member, listed⟩

theorem readLeaves_closing (margin depth : Nat) (rest opened : List (List Char)) :
    readLeaves (block margin (depth, .closing) :: rest) opened =
      readLeaves rest opened.dropLast := by
  rw [readLeaves, if_pos ((isClosing_block margin depth).2 rfl)]

theorem readLeaves_leaf {line : Line} (words : ∀ component ∈ line.component?, IsWord component)
    (leaf : line.leaf?.isSome = true) (margin depth : Nat) (rest opened : List (List Char)) :
    readLeaves (block margin (depth, line) :: rest) opened =
      (opened, block margin (depth, line)) :: readLeaves rest opened := by
  have other : ¬ line = .closing := by
    rintro rfl
    cases leaf
  rw [readLeaves, if_neg (mt (isClosing_block margin depth).1 other),
    if_pos ((isLeaf_block words margin depth).2 leaf)]

theorem readLeaves_opening {path : String} {layout : Option String}
    (words : ∀ component ∈ (Line.opening path layout).component?, IsWord component)
    (margin depth : Nat) (rest opened : List (List Char)) :
    readLeaves (block margin (depth, .opening path layout) :: rest) opened =
      readLeaves rest (opened ++ [block margin (depth, .opening path layout)]) := by
  have other : ¬ Line.opening path layout = .closing := by simp
  have inner : ¬ (Line.opening path layout).leaf?.isSome = true := by simp [Line.leaf?]
  rw [readLeaves, if_neg (mt (isClosing_block margin depth).1 other),
    if_neg (mt (isLeaf_block words margin depth).1 inner)]

theorem readLeaves_each {declarations : List Declaration} {depth : Nat}
    (each : ∀ declaration ∈ declarations, ∀ rest opened,
      readLeaves ((declaration.outline depth).map (block 0) ++ rest) opened =
        written depth opened declaration.leaves ++ readLeaves rest opened)
    (rest opened : List (List Char)) :
    readLeaves ((outlineAll depth declarations).map (block 0) ++ rest) opened =
      written depth opened (leavesAll declarations) ++ readLeaves rest opened := by
  induction declarations with
  | nil => rfl
  | cons first others ih =>
    rw [outlineAll, List.map_append, List.append_assoc, each first List.mem_cons_self,
      ih fun other member => each other (List.mem_cons_of_mem first member)]
    simp [written, leavesAll]

theorem readLeaves_outline {declaration : Declaration} (words : HaveWords [declaration])
    (depth : Nat) (rest opened : List (List Char)) :
    readLeaves ((declaration.outline depth).map (block 0) ++ rest) opened =
      written depth opened declaration.leaves ++ readLeaves rest opened := by
  -- A group adds its opening to the elements that are open, and its closing takes it away again.
  induction declaration using innerFirst generalizing depth rest opened with
  | index component =>
    have word := words depth _ List.mem_cons_self
    rw [outline, List.map_singleton, List.singleton_append, readLeaves_leaf word rfl]
    simp [written, leaves, openings, leafBlock, block, render]
  | page path component =>
    have word := words depth _ List.mem_cons_self
    rw [outline, List.map_singleton, List.singleton_append, readLeaves_leaf word rfl]
    simp [written, leaves, openings, leafBlock, block, render]
  | group path layout inner ih =>
    have word : ∀ component ∈ (Line.opening path layout).component?, IsWord component :=
      words depth (depth, .opening path layout) List.mem_cons_self
    have inside := readLeaves_each fun declaration member =>
      ih declaration member (words.inner.of_mem member) (depth + 1)
    rw [outline, List.map_append, List.map_cons, List.cons_append, List.cons_append,
      readLeaves_opening word, List.append_assoc, inside, List.map_singleton,
      List.singleton_append, readLeaves_closing, List.dropLast_concat]
    congr 1
    simp only [written, leaves, List.map_map]
    apply List.map_congr_left
    intro entry _
    simp only [Function.comp_apply, openings_cons, List.length_cons, List.append_assoc,
      List.singleton_append, Nat.add_comm entry.1.length, Nat.add_assoc]

/-- Read one after the other, the blocks of declarations give their leaves. -/
theorem readLeaves_outlineAll {declarations : List Declaration} (words : HaveWords declarations) :
    readLeaves ((outlineAll 0 declarations).map (block 0)) [] =
      written 0 [] (leavesAll declarations) := by
  have read := readLeaves_each
    (fun declaration member => readLeaves_outline (words.of_mem member) 0) [] []
  simpa [readLeaves] using read

end PageRoutes.Declaration
