import PageRoutes.Proofs.FirstOccurrences
import PageRoutes.Proofs.RouteTree.Growth

/-! What the route tree of a list of files holds, read off the list.

A node belongs to a sequence of tokens. Its pages are the files listed with these tokens, one
for each source where it was first listed but as it was last listed; its layout is the layout
listed last; and its children are the tokens with which listed files go on. The tree has
these nodes, the root, and no others.
-/

set_option autoImplicit false

namespace PageRoutes

namespace Page

def lastOf? (pages : List Page) (source : Path) : Option Page :=
  (pages.filter fun page => page.source = source).getLast?

/-- One page for each source in order of the first listing; the last listing counts. -/
def latest (pages : List Page) : List Page :=
  (pages.map Page.source).eraseDups.filterMap (lastOf? pages)

end Page

namespace RouteTree

variable (workingDirectory pagesDirectory : Path)

def filesAt (files : List Page) (tokens : List String) : List Page :=
  files.filter fun page => tokensOf workingDirectory pagesDirectory page = tokens

def pagesAt (files : List Page) (tokens : List String) : List Page :=
  Page.latest ((filesAt workingDirectory pagesDirectory files tokens).filter fun page =>
    !page.isLayout)

def layoutAt (files : List Page) (tokens : List String) : Option Page :=
  ((filesAt workingDirectory pagesDirectory files tokens).filter Page.isLayout).getLast?

def nextToken? (tokens way : List String) : Option String :=
  if tokens <+: way then way[tokens.length]? else none

def tokensBelow (files : List Page) (tokens : List String) : List String :=
  (files.filterMap fun page =>
    nextToken? tokens (tokensOf workingDirectory pagesDirectory page)).eraseDups

end RouteTree

namespace Page

theorem lastOf?_concat (pages : List Page) (page : Page) (source : Path) :
    lastOf? (pages ++ [page]) source =
      if page.source = source then some page else lastOf? pages source := by
  by_cases same : page.source = source <;> simp [lastOf?, List.filter_append, same]

theorem exists_lastOf? {pages : List Page} {source : Path}
    (listed : source ∈ pages.map Page.source) :
    ∃ page, lastOf? pages source = some page ∧ page.source = source := by
  cases found : lastOf? pages source with
  | none =>
    obtain ⟨page, member, same⟩ := List.mem_map.1 listed
    have missed := List.getLast?_eq_none_iff.1 found
    exact absurd (List.filter_eq_nil_iff.1 missed page member) (by simp [same])
  | some page =>
    have member := List.mem_filter.1 (List.mem_of_getLast? found)
    exact ⟨page, rfl, by simpa using member.2⟩

theorem placePage_filterMap {page : Page} {before after : Path → Option Page}
    (changed : ∀ source, after source = if page.source = source then some page else before source)
    {sources : List Path} (unique : sources.Nodup)
    (named : ∀ source ∈ sources, ∃ found, before source = some found ∧ found.source = source) :
    placePage page (sources.filterMap before) =
      (if page.source ∈ sources then sources else sources ++ [page.source]).filterMap after := by
  induction sources with
  | nil => simp [placePage, changed]
  | cons source rest ih =>
    obtain ⟨found, lookup, same⟩ := named source List.mem_cons_self
    obtain ⟨fresh, others⟩ := List.nodup_cons.1 unique
    rw [List.filterMap_cons_some lookup, placePage]
    by_cases here : page.source = source
    · have replaced : after source = some page := by rw [changed, if_pos here]
      have untouched : rest.filterMap after = rest.filterMap before :=
        List.filterMap_congr fun other member => by
          rw [changed, if_neg fun equal => fresh ((here.symm.trans equal) ▸ member)]
      rw [if_pos (same.trans here.symm), if_pos (here ▸ List.mem_cons_self),
        List.filterMap_cons_some replaced, untouched]
    · have apart : found.source ≠ page.source := fun equal => here (equal.symm.trans same)
      have kept : after source = some found := by rw [changed, if_neg here, lookup]
      have step := ih others fun other member => named other (List.mem_cons_of_mem _ member)
      rw [if_neg apart, step]
      by_cases below : page.source ∈ rest
      · rw [if_pos below, if_pos (List.mem_cons_of_mem _ below), List.filterMap_cons_some kept]
      · have nowhere : page.source ∉ source :: rest := by
          simp only [List.mem_cons, not_or]
          exact ⟨here, below⟩
        rw [if_neg below, if_neg nowhere, List.cons_append, List.filterMap_cons_some kept]

theorem placePage_latest (page : Page) (pages : List Page) :
    placePage page (latest pages) = latest (pages ++ [page]) := by
  have named : ∀ source ∈ (pages.map Page.source).eraseDups,
      ∃ found, lastOf? pages source = some found ∧ found.source = source :=
    fun source member => exists_lastOf? (List.mem_eraseDups.1 member)
  have placed := placePage_filterMap (lastOf?_concat pages page) (nodup_eraseDups _) named
  simp only [List.mem_eraseDups] at placed
  rw [latest, placed, latest, List.map_append, List.map_singleton, eraseDups_concat]

end Page

namespace RouteTree

open RouteNode

variable (workingDirectory pagesDirectory : Path)

theorem nextToken?_append (tokens rest : List String) :
    nextToken? tokens (tokens ++ rest) = rest.head? := by
  rw [nextToken?, if_pos (List.prefix_append _ _), List.getElem?_append_right (Nat.le_refl _),
    Nat.sub_self, List.head?_eq_getElem?]

theorem nextToken?_of_apart {tokens way : List String} (apart : ¬ tokens <+: way) :
    nextToken? tokens way = none := if_neg apart

theorem nextToken?_self (tokens : List String) : nextToken? tokens tokens = none := by
  simpa using nextToken?_append tokens []

theorem tokens_slot_changeAt {change : RouteNode → RouteNode}
    (keeps : ∀ node, (change node).token = node.token)
    (holds : ∀ node, (change node).children = node.children) (way tokens : List String)
    (node : RouteNode) :
    ((changeAt change way node).slot tokens).children.map RouteNode.token =
      match nextToken? tokens way with
      | none => (node.slot tokens).children.map RouteNode.token
      | some token =>
        if token ∈ (node.slot tokens).children.map RouteNode.token then
          (node.slot tokens).children.map RouteNode.token
        else (node.slot tokens).children.map RouteNode.token ++ [token] := by
  rcases slot_changeAt_cases keeps holds way tokens node with
    ⟨rfl, after⟩ | ⟨token, rest, rfl, after⟩ | ⟨apart, after⟩
  · rw [after, holds, nextToken?_self]
  · rw [after, nextToken?_append]
    exact map_token_changeChild (token_changeAt keeps rest) token (node.slot tokens).children
  · rw [after, nextToken?_of_apart apart]

theorem files_slot_changeAt {change : RouteNode → RouteNode}
    (keeps : ∀ node, (change node).token = node.token)
    (holds : ∀ node, (change node).children = node.children) (way tokens : List String)
    (node : RouteNode) :
    let before := node.slot tokens
    let after := (changeAt change way node).slot tokens
    after.pages = (if way = tokens then (change before).pages else before.pages) ∧
      after.layout = if way = tokens then (change before).layout else before.layout := by
  intro before after
  by_cases here : way = tokens
  · have changed : after = change before := by
      simp only [after, here]
      exact slot_changeAt_self keeps tokens node
    rw [if_pos here, if_pos here, changed]
    exact ⟨rfl, rfl⟩
  · rw [if_neg here, if_neg here]
    rcases slot_changeAt_cases keeps holds way tokens node with
      ⟨same, -⟩ | ⟨token, rest, -, changed⟩ | ⟨-, changed⟩
    · exact absurd same here
    · rw [show after = _ from changed]
      exact ⟨rfl, rfl⟩
    · rw [show after = _ from changed]
      exact ⟨rfl, rfl⟩

theorem pagesAt_concat (files : List Page) (page : Page) (tokens : List String) :
    pagesAt workingDirectory pagesDirectory (files ++ [page]) tokens =
      if tokensOf workingDirectory pagesDirectory page = tokens ∧ page.isLayout = false then
        placePage page (pagesAt workingDirectory pagesDirectory files tokens)
      else pagesAt workingDirectory pagesDirectory files tokens := by
  unfold pagesAt filesAt
  rw [List.filter_append, List.filter_append]
  by_cases here : tokensOf workingDirectory pagesDirectory page = tokens
  · cases layout : page.isLayout with
    | true => simp [here, layout]
    | false => simp [here, layout, Page.placePage_latest]
  · simp [here]

theorem layoutAt_concat (files : List Page) (page : Page) (tokens : List String) :
    layoutAt workingDirectory pagesDirectory (files ++ [page]) tokens =
      if tokensOf workingDirectory pagesDirectory page = tokens ∧ page.isLayout = true then
        some page
      else layoutAt workingDirectory pagesDirectory files tokens := by
  unfold layoutAt filesAt
  rw [List.filter_append, List.filter_append]
  by_cases here : tokensOf workingDirectory pagesDirectory page = tokens
  · cases layout : page.isLayout with
    | true => simp [here, layout]
    | false => simp [here, layout]
  · simp [here]

theorem tokensBelow_concat (files : List Page) (page : Page) (tokens : List String) :
    tokensBelow workingDirectory pagesDirectory (files ++ [page]) tokens =
      match nextToken? tokens (tokensOf workingDirectory pagesDirectory page) with
      | none => tokensBelow workingDirectory pagesDirectory files tokens
      | some token =>
        if token ∈ tokensBelow workingDirectory pagesDirectory files tokens then
          tokensBelow workingDirectory pagesDirectory files tokens
        else tokensBelow workingDirectory pagesDirectory files tokens ++ [token] := by
  unfold tokensBelow
  rw [eraseDups_filterMap_concat]
  cases nextToken? tokens (tokensOf workingDirectory pagesDirectory page) <;> rfl


def grown (files : List Page) : RouteNode :=
  files.foldl (insert workingDirectory pagesDirectory) (empty rootToken)

theorem grown_concat (files : List Page) (page : Page) :
    grown workingDirectory pagesDirectory (files ++ [page]) =
      insert workingDirectory pagesDirectory (grown workingDirectory pagesDirectory files) page := by
  simp [grown]

/-- A node that holds exactly what the list of files says about its tokens. -/
structure Describes (files : List Page) (tokens : List String) (node : RouteNode) : Prop where
  pages : node.pages = pagesAt workingDirectory pagesDirectory files tokens
  layout : node.layout = layoutAt workingDirectory pagesDirectory files tokens
  children : node.children.map RouteNode.token =
    tokensBelow workingDirectory pagesDirectory files tokens

variable {workingDirectory pagesDirectory}

theorem Describes.insert {files : List Page} {tokens : List String} {root : RouteNode}
    (described : Describes workingDirectory pagesDirectory files tokens (root.slot tokens))
    (page : Page) :
    Describes workingDirectory pagesDirectory (files ++ [page]) tokens
      ((RouteTree.insert workingDirectory pagesDirectory root page).slot tokens) := by
  obtain ⟨pages, layout, children⟩ := described
  let way := tokensOf workingDirectory pagesDirectory page
  have below := tokens_slot_changeAt (token_attach · page) (children_attach · page) way tokens root
  obtain ⟨found, wrapper⟩ :=
    files_slot_changeAt (token_attach · page) (children_attach · page) way tokens root
  rw [children, ← tokensBelow_concat] at below
  refine ⟨?_, ?_, below⟩
  · rw [pagesAt_concat, ← pages, RouteTree.insert, found]
    cases isLayout : page.isLayout <;> simp [attach, isLayout, way]
  · rw [layoutAt_concat, ← layout, RouteTree.insert, wrapper]
    cases isLayout : page.isLayout <;> simp [attach, isLayout, way]

variable (workingDirectory pagesDirectory)

theorem describes_slot_grown (files : List Page) (tokens : List String) :
    Describes workingDirectory pagesDirectory files tokens
      ((grown workingDirectory pagesDirectory files).slot tokens) := by
  induction files using List.reverseRecOn with
  | nil =>
    cases tokens with
    | nil => exact ⟨rfl, rfl, rfl⟩
    | cons token rest =>
      rw [slot_cons]
      have missing : ((empty rootToken).child? token).getD (empty token) = empty token := rfl
      cases rest <;> exact ⟨rfl, rfl, rfl⟩
  | append_singleton files page ih =>
    rw [grown_concat]
    exact ih.insert page

theorem isSome_get?_grown (files : List Page) (tokens : List String) :
    ((grown workingDirectory pagesDirectory files).get? tokens).isSome ↔
      tokens = [] ∨ ∃ page ∈ files, tokens <+: tokensOf workingDirectory pagesDirectory page := by
  induction files using List.reverseRecOn with
  | nil =>
    cases tokens with
    | nil => simp [grown]
    | cons token rest => simp [grown, get?_cons, child?, empty]
  | append_singleton files page ih =>
    rw [grown_concat]
    by_cases towards : tokens <+: tokensOf workingDirectory pagesDirectory page
    · obtain ⟨rest, split⟩ := towards
      have reached := get?_changeAt_append (token_attach · page) tokens rest
        (grown workingDirectory pagesDirectory files)
      rw [RouteTree.insert, ← split, reached]
      simp only [Option.isSome_some, true_iff]
      exact .inr ⟨page, by simp, by rw [← split]; exact List.prefix_append _ _⟩
    · rw [RouteTree.insert, get?_changeAt_of_apart (token_attach · page)
        (children_attach · page) towards, ih]
      simp [towards, or_and_right, exists_or]

theorem token_grown (files : List Page) :
    (grown workingDirectory pagesDirectory files).token = rootToken := by
  induction files using List.reverseRecOn with
  | nil => rfl
  | append_singleton files page ih =>
    rw [grown_concat, RouteTree.insert, token_changeAt (token_attach · page), ih]

variable {workingDirectory pagesDirectory} in
theorem token_of_get?_grown {files : List Page} {way : List String} {node : RouteNode}
    (reached : (grown workingDirectory pagesDirectory files).get? way = some node) :
    node.token = rootToken ∨
      ∃ page ∈ files, node.token ∈ tokensOf workingDirectory pagesDirectory page := by
  have last := token_slot (grown workingDirectory pagesDirectory files) way
  rw [slot_of_get? reached, token_grown] at last
  rw [last]
  cases way using List.reverseRecOn with
  | nil => exact .inl rfl
  | append_singleton front token =>
    have towards := (isSome_get?_grown workingDirectory pagesDirectory files
      (front ++ [token])).1 (by rw [reached]; rfl)
    obtain ⟨page, listed, within⟩ := towards.resolve_left (by simp)
    rw [List.getLastD_concat]
    exact .inr ⟨page, listed, within.subset (by simp)⟩

/-- The tree of a list of files: its root, one node for every beginning of the tokens of a
listed file, and in each node what the list says about its tokens, under the last of them. -/
theorem get?_ofFiles (sources : List Path) (tokens : List String) :
    let files := Page.number sources
    let root := (ofFiles workingDirectory pagesDirectory sources).root
    ((root.get? tokens).isSome ↔
      tokens = [] ∨ ∃ page ∈ files, tokens <+: tokensOf workingDirectory pagesDirectory page) ∧
    ∀ node, root.get? tokens = some node →
      Describes workingDirectory pagesDirectory files tokens node ∧
      node.token = tokens.getLastD rootToken ∧
      (node.children.map RouteNode.token).Nodup := by
  intro files root
  refine ⟨isSome_get?_grown workingDirectory pagesDirectory files tokens, fun node reached => ?_⟩
  have slot : (grown workingDirectory pagesDirectory files).slot tokens = node :=
    slot_of_get? reached
  have described := describes_slot_grown workingDirectory pagesDirectory files tokens
  have named := token_slot (grown workingDirectory pagesDirectory files) tokens
  rw [slot] at described named
  rw [token_grown] at named
  exact ⟨described, named, described.children ▸ nodup_eraseDups _⟩

/-- The root is there although no file is listed whose tokens could lead to it. -/
theorem root_without_files :
    ¬ ∀ (workingDirectory pagesDirectory : Path) (sources : List Path) (tokens : List String),
      (((ofFiles workingDirectory pagesDirectory sources).root.get? tokens).isSome ↔
        ∃ page ∈ Page.number sources,
          tokens <+: tokensOf workingDirectory pagesDirectory page) := by
  intro claimed
  have listed := (claimed Path.root Path.root [] []).1 rfl
  simp [Page.number] at listed

end RouteTree

end PageRoutes
