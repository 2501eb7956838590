import PageRoutes.Proofs.Declaration.PathAttribute
import PageRoutes.Proofs.Declaration.ReadBack

/-! Where the lines of a tree's declarations come from.

A line that opens a group belongs to a node of the tree, and the line of a page to a page of a
node. Main statement: among the lines for a list of files every path is the token of a listed
page, the token of a directory of a listed file, or that of the root.
-/

set_option autoImplicit false

namespace PageRoutes

def Page.line (page : Page) : Declaration.Line :=
  if page.isIndex then .index page.component
  else .page (Route.token page.name) page.component

namespace Declaration

open RouteNode RouteTree

theorem outline_declaration (page : Page) (depth : Nat) :
    page.declaration.outline depth = [(depth, page.line)] := by
  unfold Page.declaration Page.line
  split <;> rfl

theorem render_declaration (page : Page) : page.declaration.render = page.line.write := by
  unfold Page.declaration Page.line
  split <;> rfl

theorem path?_line {page : Page} (plain : page.isIndex = false) :
    page.line.path? = some (Route.token page.name) := by
  rw [Page.line, if_neg (by simp [plain])]
  rfl

theorem component?_line (page : Page) : page.line.component? = some page.component := by
  unfold Page.line
  split <;> rfl

theorem word_of_line {page : Page} (word : IsWord page.component) :
    ∀ component ∈ page.line.component?, IsWord component := by
  rw [component?_line]
  rintro component ⟨⟩
  exact word

theorem forall_path_line (page : Page) :
    (∀ path ∈ page.line.path?, Text.Unbroken path.toList) ↔
      page.isIndex = true ∨ Text.Unbroken (Route.token page.name).toList := by
  cases index : page.isIndex with
  | true => simp [Page.line, index, Line.path?]
  | false => simp [path?_line index]

/-- What a line of the declarations of a node stands for. -/
inductive LineOf (node : RouteNode) : Line → Prop where
  | page {found : RouteNode} {page : Page} : found ∈ node.walk → page ∈ found.pages →
      LineOf node page.line
  | directory {found : RouteNode} : found ∈ node.walk →
      LineOf node (.opening found.token (found.layout.map Page.component))
  | closing : LineOf node .closing

theorem LineOf.of_child {node child : RouteNode} (member : child ∈ node.children) {line : Line}
    (below : LineOf child line) : LineOf node line := by
  cases below with
  | page inside listed => exact .page (mem_walk_child member inside) listed
  | directory inside => exact .directory (mem_walk_child member inside)
  | closing => exact .closing

theorem lineOf_innerOf (node : RouteNode)
    (below : ∀ child ∈ node.children, ∀ depth, ∀ entry ∈ outlineAll depth (ofNode false child),
      LineOf child entry.2) {depth : Nat} {entry : Nat × Line}
    (member : entry ∈ outlineAll depth (innerOf node.pages node.children)) :
    LineOf node entry.2 := by
  rw [outlineAll_eq, innerOf, flatten_inOrder_ofChildren, List.mem_flatMap] at member
  obtain ⟨declaration, enclosed, inside⟩ := member
  rcases List.mem_append.1 enclosed with own | inner
  · obtain ⟨page, sorted, rfl⟩ := List.mem_map.1 own
    rw [outline_declaration, List.mem_singleton] at inside
    subst inside
    exact .page (mem_walk_self node) (List.mem_mergeSort.1 sorted)
  · obtain ⟨group, written, listed⟩ := List.mem_flatten.1 inner
    obtain ⟨child, sorted, rfl⟩ := List.mem_map.1 written
    have among := mem_sortedChildren.1 sorted
    apply (below child among depth entry _).of_child among
    rw [outlineAll_eq]
    exact List.mem_flatMap.2 ⟨declaration, listed, inside⟩

theorem lineOf_group {node : RouteNode} {depth : Nat} {entry : Nat × Line}
    (inner : ∀ depth, ∀ entry ∈ outlineAll depth (innerOf node.pages node.children),
      LineOf node entry.2)
    (member : entry ∈ outlineAll depth [.group node.token (node.layout.map Page.component)
      (innerOf node.pages node.children)]) : LineOf node entry.2 := by
  rw [outlineAll_eq, List.flatMap_singleton, outline, List.cons_append, List.mem_cons,
    List.mem_append, List.mem_singleton] at member
  rcases member with rfl | inside | rfl
  · exact .directory (mem_walk_self node)
  · exact inner (depth + 1) entry inside
  · exact .closing

theorem enclose_cases {isRoot : Bool} {token : String} (top : isRoot = true → token = rootToken)
    (layout : Option Page) (inner : List Declaration) :
    let declared := enclose isRoot token layout inner
    declared = [] ∨ declared = inner ∨
      declared = [.group token (layout.map Page.component) inner] := by
  cases inner with
  | nil => exact .inl rfl
  | cons first rest =>
    cases layout with
    | none =>
      cases isRoot with
      | true => exact .inr (.inl rfl)
      | false => exact .inr (.inr rfl)
    | some wrapper =>
      cases isRoot with
      | true =>
        rw [top rfl]
        exact .inr (.inr rfl)
      | false => exact .inr (.inr rfl)

theorem lineOf_of_mem_outline {isRoot : Bool} {node : RouteNode}
    (top : isRoot = true → node.token = rootToken) {depth : Nat} {entry : Nat × Line}
    (member : entry ∈ outlineAll depth (ofNode isRoot node)) : LineOf node entry.2 := by
  induction node using childrenFirst generalizing isRoot depth entry with
  | step token layout pages children ih =>
    have inner : ∀ depth, ∀ entry ∈ outlineAll depth (innerOf pages children),
        LineOf ⟨token, layout, pages, children⟩ entry.2 := by
      intro depth entry inside
      refine lineOf_innerOf ⟨token, layout, pages, children⟩ (fun child among depth entry => ?_)
        inside
      exact ih child among fun plain => absurd plain Bool.false_ne_true
    rw [ofNode_eq] at member
    rcases enclose_cases top layout (innerOf pages children) with none | open' | grouped
    · rw [none] at member
      cases member
    · rw [open'] at member
      exact inner depth entry member
    · rw [grouped] at member
      exact lineOf_group inner member

variable {workingDirectory pagesDirectory : Path}

/-- A path among the lines for a list of files is the token of a page, of a directory, or of the
root. -/
theorem path_of_listed {sources : List Path} {entry : Nat × Line} {path : String}
    (member : entry ∈
      outlineAll 0 (ofRoot (ofFiles workingDirectory pagesDirectory sources).root))
    (named : entry.2.path? = some path) :
    (∃ file ∈ Page.number sources, file.isLayout = false ∧ entry.2 = file.line ∧
      path = Route.token file.name) ∨
    ((∃ layout, entry.2 = .opening path layout) ∧
      (path = rootToken ∨ ∃ file ∈ Page.number sources,
        path ∈ tokensOf workingDirectory pagesDirectory file)) := by
  have distinct := distinct_ofFiles workingDirectory pagesDirectory sources
  rw [ofRoot_eq distinct] at member
  -- From the line to a node of the tree, and from there to the files that made the node.
  have origin := lineOf_of_mem_outline
    (fun _ => token_grown workingDirectory pagesDirectory (Page.number sources)) member
  generalize entry.2 = line at named origin
  cases origin with
  | closing => cases named
  | @page node file inside listed =>
    obtain ⟨way, reached⟩ := exists_get?_of_mem_walk distinct inside
    obtain ⟨_, described⟩ := get?_ofFiles workingDirectory pagesDirectory sources way
    rw [(described node reached).1.pages] at listed
    obtain ⟨among, _, routed⟩ := mem_pagesAt listed
    refine .inl ⟨file, among, routed, rfl, ?_⟩
    unfold Page.line at named
    split at named
    · cases named
    · exact (Option.some.inj named).symm
  | @directory node inside =>
    cases named
    obtain ⟨way, reached⟩ := exists_get?_of_mem_walk distinct inside
    exact .inr ⟨⟨_, rfl⟩, token_of_get?_grown reached⟩

variable (workingDirectory pagesDirectory)

theorem line_of_listed_page {sources : List Path} (different : sources.Nodup) {file : Page}
    (listed : file ∈ Page.number sources) (routed : file.isLayout = false) :
    let root := (ofFiles workingDirectory pagesDirectory sources).root
    ((rootEnclosure root.layout).length +
        (tokensOf workingDirectory pagesDirectory file).length, file.line) ∈
      outlineAll 0 (ofRoot root) := by
  intro root
  have leaves := leavesAll_ofFiles workingDirectory pagesDirectory different
  have among : file ∈ (Page.number sources).filter fun file => !file.isLayout :=
    List.mem_filter.2 ⟨listed, by simp [routed]⟩
  have within := outline_subset_of_leaf ((leaves.mem_iff).2 (List.mem_map_of_mem among)) 0
  rw [outline_declaration, List.length_append, enclosures, List.length_mapIdx,
    Nat.zero_add] at within
  exact within List.mem_cons_self

theorem placed_ofFiles (sources : List Path) :
    (placed (ofRoot (ofFiles workingDirectory pagesDirectory sources).root)).Subperm
      ((Page.number sources).map Page.component) := by
  obtain ⟨kept, same, within⟩ :=
    attached_grown workingDirectory pagesDirectory (Page.number sources)
  rw [ofRoot_eq (distinct_ofFiles workingDirectory pagesDirectory sources)]
  exact (placed_ofNode true _).trans
    ⟨kept.map Page.component, same.map Page.component, within.map Page.component⟩

theorem isWord_of_mem_number {sources : List Path} {page : Page}
    (listed : page ∈ Page.number sources) : IsWord page.component := by
  obtain ⟨_, position, same⟩ := Page.exists_identifier_of_mem_number listed
  exact same ▸ isWord_identifier position

variable {workingDirectory pagesDirectory} in
theorem isWord_of_mem_outline {sources : List Path} {entry : Nat × Line}
    (member : entry ∈
      outlineAll 0 (ofRoot (ofFiles workingDirectory pagesDirectory sources).root)) :
    ∀ component ∈ entry.2.component?, IsWord component := by
  intro component named
  have among := (placed_ofFiles workingDirectory pagesDirectory sources).subset
    (List.mem_filterMap.2 ⟨entry, member, named⟩)
  obtain ⟨page, listed, rfl⟩ := List.mem_map.1 among
  exact isWord_of_mem_number listed

end Declaration

end PageRoutes
