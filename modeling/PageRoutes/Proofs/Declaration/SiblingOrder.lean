import PageRoutes.Proofs.Declaration.ReadBack
import PageRoutes.Proofs.RouteTree.WalkLevel

/-! Wildcards among the siblings of a node.

A node declares its pages first and its children after them. The pages are in the order of their own
names, and the children in the order of the pages below them, for which their own names do not
count. Main statement: no wildcard comes before a literal page, and where one comes before a literal
directory, it is a page or a directory with no worse pages below it.
-/

set_option autoImplicit false

namespace PageRoutes

namespace RouteNode

inductive Member where
  | page (page : Page)
  | directory (child : RouteNode)

def Member.declared : Member → List Declaration
  | .page file => [file.declaration]
  | .directory child => Declaration.ofNode false child

/-- The pages of a node in order, and then in order those of its children that hold a page. -/
def members (node : RouteNode) : List Member :=
  node.sortedPages.map .page ++ (node.sortedChildren.filter holdsPage).map .directory

theorem length_declared {node : RouteNode} {member : Member} (among : member ∈ node.members) :
    member.declared.length = 1 := by
  rcases List.mem_append.1 among with page | directory
  · obtain ⟨page, _, rfl⟩ := List.mem_map.1 page
    rfl
  · obtain ⟨child, kept, rfl⟩ := List.mem_map.1 directory
    rw [Member.declared, Declaration.ofNode_false_eq, if_pos (List.mem_filter.1 kept).2]
    rfl

theorem ofNode_eq_members (isRoot : Bool) (node : RouteNode) :
    Declaration.ofNode isRoot node =
      Declaration.enclose isRoot node.token node.layout (node.members.flatMap Member.declared) := by
  have pages : node.sortedPages.map Page.declaration =
      (node.sortedPages.map Member.page).flatMap Member.declared := by
    rw [List.flatMap_map, List.map_eq_flatMap]
    rfl
  -- Children without pages declare nothing, so leaving them out makes no difference.
  have children : node.sortedChildren.flatMap (Declaration.ofNode false) =
      ((node.sortedChildren.filter holdsPage).map Member.directory).flatMap Member.declared := by
    rw [List.flatMap_map]
    induction node.sortedChildren with
    | nil => rfl
    | cons child rest ih =>
      rw [List.flatMap_cons, ih]
      by_cases holds : child.holdsPage = true
      · rw [List.filter_cons_of_pos holds, List.flatMap_cons]
        rfl
      · rw [List.filter_cons_of_neg holds, Declaration.ofNode_false_eq, if_neg holds]
        rfl
  rw [Declaration.ofNode_eq, Declaration.innerOf, Declaration.flatten_inOrder_ofChildren,
    ← List.flatMap_def, members, List.flatMap_append, ← pages, ← children]
  rfl

theorem members_of_pairwise {node : RouteNode}
    (pages : node.pages.Pairwise fun first second => first.before second = true)
    (children : node.children.Pairwise fun first second => first.before second = true) :
    node.members =
      node.pages.map .page ++ (node.children.filter holdsPage).map .directory := by
  rw [members, sortedChildren_eq_mergeSort, List.mergeSort_of_pairwise children, sortedPages,
    List.mergeSort_of_pairwise pages]

/-- A page with a bracket in its name is somewhere below a node exactly if the node's level is
that of a parameter or worse. -/
theorem dynamic_le_walkLevel_iff (node : RouteNode) :
    Route.Rank.dynamic.level ≤ node.walkLevel ↔
      ∃ page ∈ node.walkPages, '[' ∈ page.name.toList := by
  simp only [← Route.dynamic_le_rank_iff]
  constructor
  · intro bad
    obtain ⟨page, member, same⟩ :=
      Page.exists_of_worstLevel_pos (Nat.lt_of_lt_of_le (by decide) bad : 0 < node.walkLevel)
    exact ⟨page, member, bad.trans_eq same.symm⟩
  · rintro ⟨page, member, bad⟩
    exact bad.trans (Page.le_worstLevel member)

/-- What the order of members says about two of them: a page is no worse than a later page, a
directory no worse than a later directory, and no directory comes before a page. -/
inductive Member.Precedes : Member → Member → Prop where
  | pages {first second : Page} : first.rank.level ≤ second.rank.level →
      Precedes (.page first) (.page second)
  | directories {first second : RouteNode} : first.before second = true →
      Precedes (.directory first) (.directory second)
  | apart {first : Page} {second : RouteNode} : Precedes (.page first) (.directory second)

theorem pairwise_members (node : RouteNode) : node.members.Pairwise Member.Precedes := by
  rw [members, List.pairwise_append, List.pairwise_map, List.pairwise_map]
  refine ⟨?_, ?_, ?_⟩
  · exact node.arranged_sortedPages.ordered.imp fun ordered => .pages (by omega)
  · refine (node.arranged_sortedChildren.ordered.filter _).imp fun {first second} ordered => ?_
    exact .directories ((before_iff first second).2 ordered)
  · intro first page second directory
    obtain ⟨_, _, rfl⟩ := List.mem_map.1 page
    obtain ⟨_, _, rfl⟩ := List.mem_map.1 directory
    exact .apart

end RouteNode

namespace RouteTree

open RouteNode

variable (workingDirectory pagesDirectory : Path)

/-- The names that a directory has in the listed files, where its token follows some tokens. -/
def namesAt (files : List Page) (tokens : List String) (token : String) : List Name :=
  (files.filter fun page =>
    nextToken? tokens (tokensOf workingDirectory pagesDirectory page) = some token).filterMap
      fun page => (Page.directories workingDirectory page.source pagesDirectory)[tokens.length]?

/-- The names of a member of the node of some tokens: that of the file, or those of the directory.
Different names may stand for one token. -/
def namesOf (files : List Page) (tokens : List String) : Member → List String
  | .page page => [page.name]
  | .directory child =>
    (namesAt workingDirectory pagesDirectory files tokens child.token).map Name.text

def IsWildcard (files : List Page) (tokens : List String) (member : Member) : Prop :=
  ∃ name ∈ namesOf workingDirectory pagesDirectory files tokens member, '[' ∈ name.toList

def IsLiteral (files : List Page) (tokens : List String) (member : Member) : Prop :=
  ∃ name ∈ namesOf workingDirectory pagesDirectory files tokens member, '[' ∉ name.toList

instance (files : List Page) (tokens : List String) (member : Member) :
    Decidable (IsWildcard workingDirectory pagesDirectory files tokens member) :=
  inferInstanceAs (Decidable (∃ name ∈ namesOf _ _ _ _ _, '[' ∈ name.toList))

instance (files : List Page) (tokens : List String) (member : Member) :
    Decidable (IsLiteral workingDirectory pagesDirectory files tokens member) :=
  inferInstanceAs (Decidable (∃ name ∈ namesOf _ _ _ _ _, '[' ∉ name.toList))

variable {workingDirectory pagesDirectory} in
theorem exists_mem_namesAt {files : List Page} {tokens : List String} {token : String}
    (below : token ∈ tokensBelow workingDirectory pagesDirectory files tokens) :
    ∃ name, name ∈ namesAt workingDirectory pagesDirectory files tokens token := by
  obtain ⟨page, listed, next⟩ := List.mem_filterMap.1 (List.mem_eraseDups.1 below)
  have way := next
  unfold nextToken? at way
  split at way
  · rw [tokensOf, List.getElem?_map, Option.map_eq_some_iff] at way
    obtain ⟨name, found, _⟩ := way
    refine ⟨name, List.mem_filterMap.2 ⟨page, List.mem_filter.2 ⟨listed, ?_⟩, found⟩⟩
    exact decide_eq_true next
  · cases way

theorem exists_mem_namesOf {sources : List Path} {tokens : List String} {node : RouteNode}
    (reached : (ofFiles workingDirectory pagesDirectory sources).root.get? tokens = some node)
    {member : Member} (among : member ∈ node.members) :
    ∃ name,
      name ∈ namesOf workingDirectory pagesDirectory (Page.number sources) tokens member := by
  rcases List.mem_append.1 among with page | directory
  · obtain ⟨file, _, rfl⟩ := List.mem_map.1 page
    exact ⟨file.name, List.mem_singleton_self _⟩
  · obtain ⟨child, kept, rfl⟩ := List.mem_map.1 directory
    have described := describes_slot_grown workingDirectory pagesDirectory
      (Page.number sources) tokens
    have slot : (grown workingDirectory pagesDirectory (Page.number sources)).slot tokens = node :=
      slot_of_get? reached
    rw [slot] at described
    have token : child.token ∈ node.children.map RouteNode.token :=
      List.mem_map_of_mem (mem_sortedChildren.1 (List.mem_filter.1 kept).1)
    rw [described.children] at token
    obtain ⟨name, known⟩ := exists_mem_namesAt token
    exact ⟨name.text, List.mem_map_of_mem known⟩

/-- Among the siblings of a node no wildcard comes before a literal page, and none before a literal
directory but a page, or a directory with pages below it that are no worse and, if they are as bad,
with a token that is no shorter. No directory with a wildcard page anywhere below it comes before
one that has literal pages only. -/
theorem wildcard_before_literal (sources : List Path) {tokens : List String} {node : RouteNode}
    (reached :
      (ofFiles workingDirectory pagesDirectory sources).root.get? tokens = some node) :
    let wildcard := IsWildcard workingDirectory pagesDirectory (Page.number sources) tokens
    let literal := IsLiteral workingDirectory pagesDirectory (Page.number sources) tokens
    (∀ isRoot, Declaration.ofNode isRoot node =
      Declaration.enclose isRoot node.token node.layout
        (node.members.flatMap Member.declared)) ∧
    (∀ member ∈ node.members,
      member.declared.length = 1 ∧ (wildcard member ∨ literal member)) ∧
    node.members.Pairwise fun first second =>
      (wildcard first → literal second → ∃ behind, second = .directory behind ∧
        ∀ front, first = .directory front → front.walkLevel < behind.walkLevel ∨
          front.walkLevel = behind.walkLevel ∧ behind.token.length ≤ front.token.length) ∧
      (∀ front behind, first = .directory front → second = .directory behind →
        (∃ page ∈ front.walkPages, '[' ∈ page.name.toList) →
          ∃ page ∈ behind.walkPages, '[' ∈ page.name.toList) := by
  intro wildcard literal
  refine ⟨fun isRoot => ofNode_eq_members isRoot node, fun member among => ?_, ?_⟩
  · refine ⟨length_declared among, ?_⟩
    obtain ⟨name, known⟩ := exists_mem_namesOf workingDirectory pagesDirectory reached among
    by_cases bracket : '[' ∈ name.toList
    · exact .inl ⟨name, known, bracket⟩
    · exact .inr ⟨name, known, bracket⟩
  · refine node.pairwise_members.imp fun {first second} ordered => ?_
    cases ordered with
    | @pages first second noWorse =>
      constructor
      -- A page has one name, whose brackets its rank tells of.
      · rintro ⟨_, own, bracket⟩ ⟨_, other, free⟩
        cases List.mem_singleton.1 own
        cases List.mem_singleton.1 other
        have bad := (Route.dynamic_le_rank_iff _).2 bracket
        exact absurd ((Route.dynamic_le_rank_iff _).1 (bad.trans noWorse)) free
      · rintro _ _ ⟨⟩
    | @directories front behind inOrder =>
      simp only [RouteNode.before, Bool.or_eq_true, Bool.and_eq_true, decide_eq_true_eq,
        beq_iff_eq] at inOrder
      refine ⟨fun _ _ => ⟨behind, rfl, ?_⟩, ?_⟩
      · rintro _ ⟨⟩
        exact inOrder
      · rintro _ _ ⟨⟩ ⟨⟩ bad
        rw [← dynamic_le_walkLevel_iff] at bad ⊢
        omega
    | apart =>
      constructor
      · refine fun _ _ => ⟨_, rfl, ?_⟩
        rintro _ ⟨⟩
      · rintro _ _ ⟨⟩

/-- In a directory with two pages and two directories, one of each with a parameter. -/
theorem wildcard_before_literal_in_docs :
    let pages := Path.ofString "/p"
    let sources := ["/p/docs/[id].tsx", "/p/docs/[slug]/[x].tsx", "/p/docs/about/team.tsx",
      "/p/docs/intro.tsx"].map Path.ofString
    ∃ node, (ofFiles Path.root pages sources).root.get? ["docs"] = some node ∧
      node.pages.length = 2 ∧ node.children.length = 2 ∧
      node.members.Pairwise fun first second =>
        IsWildcard Path.root pages (Page.number sources) ["docs"] first →
          IsLiteral Path.root pages (Page.number sources) ["docs"] second →
            ∃ behind, second = .directory behind ∧
              ∀ front, first = .directory front → front.walkLevel ≤ behind.walkLevel := by
  intro pages sources
  have counted : ((ofFiles Path.root pages sources).root.get? ["docs"]).map
      (fun node => (node.pages.length, node.children.length)) = some (2, 2) := by decide +kernel
  obtain ⟨node, reached, counts⟩ := Option.map_eq_some_iff.1 counted
  obtain ⟨files, directories⟩ := Prod.mk.inj counts
  obtain ⟨_, _, ordered⟩ := wildcard_before_literal Path.root pages sources reached
  refine ⟨node, reached, files, directories, ordered.imp ?_⟩
  rintro first second ⟨known, _⟩ wild plain
  obtain ⟨behind, same, worse⟩ := known wild plain
  refine ⟨behind, same, fun front directory => ?_⟩
  have noWorse := worse front directory
  omega

/-- A page with a parameter comes before a literal directory, and so does a directory that is a
parameter and holds an index. -/
theorem wildcard_before_literal_directory :
    let pages := Path.ofString "/p"
    let shadowed (names : List String) : Prop :=
      let sources := names.map Path.ofString
      ¬ (ofFiles Path.root pages sources).root.members.Pairwise fun first second =>
        ¬ (IsWildcard Path.root pages (Page.number sources) [] first ∧
          IsLiteral Path.root pages (Page.number sources) [] second)
    shadowed ["/p/[id].tsx", "/p/posts/index.tsx"] ∧
      shadowed ["/p/[slug]/index.tsx", "/p/about/team.tsx"] := by
  intro pages shadowed
  refine ⟨?_, ?_⟩
  · simp only [shadowed]
    rw [members_of_pairwise (by decide +kernel) (by decide +kernel)]
    decide +kernel
  · simp only [shadowed]
    rw [members_of_pairwise (by decide +kernel) (by decide +kernel)]
    decide +kernel

end RouteTree

end PageRoutes
