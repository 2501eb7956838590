import PageRoutes.Proofs.Declaration.Elements
import PageRoutes.Proofs.Declaration.Origins

/-! The leaf of a listed page in the emitted text, and the elements that are open around it.

The blocks of the text are read with a stack. Main statement: one leaf has the component of the
page, and around it stand the root, if it has a layout, and one element for each directory. A
block is the margin of its depth and the text of its element exactly if no boundary is in its
token.
-/

set_option autoImplicit false

namespace PageRoutes

def Page.leafText (page : Page) : String :=
  if page.isIndex then "<Route index element=\x7b<" ++ page.component ++ " />\x7d />"
  else "<Route path=\"" ++ Route.token page.name ++ "\" element=\x7b<" ++ page.component ++
    " />\x7d />"

/-- The beginning of an element around others. -/
def Enclosure.openingText : Enclosure → String
  | ⟨path, some layout⟩ => "<Route path=\"" ++ path ++ "\" element=\x7b<" ++ layout ++ " />\x7d>"
  | ⟨path, none⟩ => "<Route path=\"" ++ path ++ "\">"

namespace Declaration

open RouteNode RouteTree

theorem render_declaration_eq_leafText (page : Page) :
    page.declaration.render = page.leafText := by
  rw [render_declaration, Page.line, Page.leafText]
  split <;> simp [Line.write, element, pathAttribute, ← String.toList_inj]

theorem write_opening_eq_openingText (element : Enclosure) :
    (Line.opening element.path element.layout).write = element.openingText := by
  obtain ⟨path, layout⟩ := element
  cases layout <;>
    simp [Line.write, Enclosure.openingText, Declaration.element, pathAttribute,
      ← String.toList_inj]

def marginAt (depth : Nat) : List Char := List.replicate (2 * depth) ' '

theorem leafBlock_declaration (page : Page) (depth : Nat) :
    leafBlock depth page.declaration =
      Text.indentChars (marginAt depth) page.leafText.toList := by
  rw [leafBlock, render_declaration_eq_leafText, marginAt, indentWidth]

theorem block_opening (element : Enclosure) (depth : Nat) :
    block 0 (depth, .opening element.path element.layout) =
      Text.indentChars (marginAt depth) element.openingText.toList := by
  rw [block, Nat.zero_add, write_opening_eq_openingText, marginAt, indentWidth]

theorem leafName?_leafBlock {page : Page} (word : IsWord page.component) (depth : Nat) :
    leafName? (leafBlock depth page.declaration) = some page.component := by
  have shape : leafBlock depth page.declaration = block 0 (depth, page.line) := by
    rw [leafBlock, render_declaration, block, Nat.zero_add]
  have own : page.line.leaf? = some page.component := by
    unfold Page.line
    split <;> rfl
  rw [shape, leafName?_block (word_of_line word), own]

theorem indented_unchanged_iff {line : Line} (words : ∀ component ∈ line.component?, IsWord component)
    (depth : Nat) :
    Text.indentChars (marginAt depth) line.write.toList = marginAt depth ++ line.write.toList ↔
      depth = 0 ∨ ∀ path ∈ line.path?, Text.Unbroken path.toList := by
  by_cases top : depth = 0
  · subst top
    exact iff_of_true (Text.indentChars_nil _) (.inl rfl)
  · have inside : 0 < 0 + indentWidth * depth := by
      rw [indentWidth]
      omega
    rw [or_iff_right top, ← block_unchanged_iff words inside, block, Nat.zero_add, marginAt,
      indentWidth]

variable (workingDirectory pagesDirectory : Path)

theorem isWord_of_mem_elementsAround {sources : List Path} {tokens : List String}
    {element : Enclosure}
    (member : element ∈ elementsAround workingDirectory pagesDirectory (Page.number sources) tokens) :
    ∀ component ∈ element.layout, IsWord component := by
  have named : ∀ {tokens layout}, layoutAt workingDirectory pagesDirectory (Page.number sources)
      tokens = some layout → IsWord layout.component := fun found =>
    isWord_of_mem_number (List.mem_filter.1 (List.mem_filter.1
      (List.mem_of_getLast? found)).1).1
  rcases List.mem_append.1 member with top | below
  · intro component same
    obtain ⟨wrapper, found, rfl⟩ := Option.map_eq_some_iff.1 (Option.mem_toList.1 top)
    cases same
    exact named found
  · obtain ⟨position, _, rfl⟩ := List.mem_mapIdx.1 below
    intro component same
    obtain ⟨wrapper, found, rfl⟩ := Option.map_eq_some_iff.1 same
    exact named found

/-- The blocks of the emitted text have one leaf with the component of a listed page, the text of
the page's own element. Open around it are the root, if it has a layout, and one element for each
directory, with the layout listed last for the directories so far. All of them come behind the
margin of their depth, unchanged exactly if that is nothing or no boundary is in their token. -/
theorem leaf_of_listed_page {sources : List Path} (different : sources.Nodup) {file : Page}
    (listed : file ∈ Page.number sources) (routed : file.isLayout = false)
    {directories : List Name} {name : Name}
    (stands : file.source = pagesDirectory.below (directories ++ [name]))
    (free : Name.up ∉ directories) :
    let files := Page.number sources
    let root := (ofFiles workingDirectory pagesDirectory sources).root
    let blocks := (outlineAll 0 (ofRoot root)).map (block 0)
    let tokens := directories.map fun directory => Route.token directory.text
    let elements := elementsAround workingDirectory pagesDirectory files tokens
    root.layout = layoutAt workingDirectory pagesDirectory files [] ∧
    ("\n".intercalate ((ofRoot root).map render)).toList = Text.joinLines blocks ∧
    (readLeaves blocks []).filter (fun leaf => leafName? leaf.2 = some file.component) =
      [(elements.mapIdx fun depth element =>
          Text.indentChars (marginAt depth) element.openingText.toList,
        Text.indentChars (marginAt elements.length) file.leafText.toList)] ∧
    (∀ depth element, elements[depth]? = some element →
      let text := element.openingText.toList
      (Text.indentChars (marginAt depth) text = marginAt depth ++ text ↔
        depth = 0 ∨ Text.Unbroken element.path.toList)) ∧
    let text := file.leafText.toList
    (Text.indentChars (marginAt elements.length) text = marginAt elements.length ++ text ↔
      elements = [] ∨ file.isIndex = true ∨ Text.Unbroken (Route.token file.name).toList) := by
  intro files root blocks tokens elements
  have word : IsWord file.component := isWord_of_mem_number listed
  refine ⟨layout_ofFiles workingDirectory pagesDirectory sources,
    toList_intercalate_render_eq_blocks _, ?_, fun depth element found => ?_, ?_⟩
  · have words : HaveWords (ofRoot root) := haveWords_of_outline fun _ => isWord_of_mem_outline
    -- Each leaf shows its component in its block, so the blocks are filtered as the leaves are.
    have readable : ∀ entry ∈ leavesAll (ofRoot root), ∀ depth,
        leafName? (leafBlock depth entry.2) = entry.2.component? := by
      intro entry member depth
      have leaves := leavesAll_ofFiles workingDirectory pagesDirectory different
      obtain ⟨page, among, rfl⟩ := List.mem_map.1 (leaves.mem_iff.1 member)
      rw [component?_declaration]
      exact leafName?_leafBlock (isWord_of_mem_number (List.mem_filter.1 among).1) depth
    rw [readLeaves_outlineAll words, written, List.filter_map]
    have same : (leavesAll (ofRoot root)).filter
        ((fun leaf => decide (leafName? leaf.2 = some file.component)) ∘ fun entry =>
          ([] ++ openings 0 entry.1, leafBlock (0 + entry.1.length) entry.2)) =
        (leavesAll (ofRoot root)).filter fun entry =>
          decide (entry.2.component? = some file.component) :=
      List.filter_congr fun entry member => by simp [readable entry member]
    rw [same, leavesAll_filter_component workingDirectory pagesDirectory different listed routed
      stands free]
    simp only [openings, block_opening, leafBlock_declaration, List.map_cons, List.map_nil,
      Nat.zero_add, List.nil_append]
    rfl
  · intro text
    have words : ∀ component ∈ (Line.opening element.path element.layout).component?,
        IsWord component :=
      isWord_of_mem_elementsAround workingDirectory pagesDirectory (List.mem_of_getElem? found)
    have unchanged := indented_unchanged_iff words depth
    rw [write_opening_eq_openingText] at unchanged
    rw [unchanged]
    simp [Line.path?]
  · intro text
    have unchanged := indented_unchanged_iff (word_of_line word) elements.length
    rw [← render_declaration, render_declaration_eq_leafText, forall_path_line,
      List.length_eq_zero_iff] at unchanged
    exact unchanged

/-- Two directories with the token of a catch-all share their element and their layout. -/
theorem leaf_of_listed_page_in_shared_element :
    let pages := Path.ofString "/p"
    let sources := ["/p/layout.tsx", "/p/[...a]/x.tsx", "/p/[...b]/layout.tsx",
      "/p/[...a]/layout.jsx", "/p/[...b]/layout.jsx"].map Path.ofString
    let file : Page := ⟨Path.ofString "/p/[...a]/x.tsx", "Page1"⟩
    sources.Nodup ∧ file ∈ Page.number sources ∧ file.isLayout = false ∧
    (readLeaves ((outlineAll 0 (ofRoot (ofFiles Path.root pages sources).root)).map (block 0)) []).filter
        (fun leaf => leafName? leaf.2 = some file.component) =
      [(["<Route path=\"/\" element=\x7b<Page0 />\x7d>".toList,
          "  <Route path=\"*\" element=\x7b<Page4 />\x7d>".toList],
        "    <Route path=\"x\" element=\x7b<Page1 />\x7d />".toList)] := by
  intro pages sources file
  have different : sources.Nodup := by decide +kernel
  have listed : file ∈ Page.number sources := by decide +kernel
  have routed : file.isLayout = false := by decide +kernel
  have stands : file.source = pages.below ([⟨"[...a]", by decide, by decide, by decide⟩] ++
      [⟨"x.tsx", by decide, by decide, by decide⟩]) := by decide +kernel
  obtain ⟨_, _, leaf, _⟩ := leaf_of_listed_page Path.root pages different listed routed stands
    (by decide +kernel)
  exact ⟨different, listed, routed, leaf.trans (by decide +kernel)⟩

/-- A line feed in the name of a page brings a margin into its leaf. -/
theorem leaf_of_page_with_line_feed :
    ¬ ∀ (workingDirectory pagesDirectory : Path) (sources : List Path), sources.Nodup →
      (∀ source ∈ sources, source.IsUnder pagesDirectory) →
      ∀ file ∈ Page.number sources, file.isLayout = false →
        file.leafText.toList <:+:
          ("\n".intercalate ((ofRoot (ofFiles workingDirectory pagesDirectory
            sources).root).map render)).toList := by
  intro claimed
  let pages := Path.ofString "/p"
  let file : Page := ⟨Path.ofString "/p/d/a\nb.tsx", "Page0"⟩
  have numbered : Page.number [file.source] = [file] := by decide +kernel
  have occurs := claimed Path.root pages [file.source] (List.nodup_singleton _)
    (by decide +kernel) file (numbered ▸ List.mem_cons_self) (by decide +kernel)
  revert occurs
  decide +kernel

end Declaration

end PageRoutes
