import Mathlib.Data.List.Perm.Basic
import PageRoutes.Proofs.Page.Numbering
import PageRoutes.Proofs.Path.Below
import PageRoutes.Proofs.RouteTree.Located
import PageRoutes.Proofs.RouteTree.RankCache

/-! The elements around every page in the declarations of a tree.

Declarations are read as their leaves, each with the elements around it. Sorting moves leaves
but neither loses one nor changes what is around it, and a node without pages has no leaf that
could be lost with it. Main statement: a listed file that is no layout has one leaf, inside one
element for each of its directories, and around all of them the root if it has a layout.
-/

set_option autoImplicit false

namespace PageRoutes

/-- An element around others: its path, and the component of its layout if it has one. -/
structure Enclosure where
  path : String
  layout : Option String
  deriving DecidableEq

namespace Declaration

mutual

/-- The leaves of a declaration, each with the elements around it, outermost first. -/
def leaves : Declaration → List (List Enclosure × Declaration)
  | .index component => [([], .index component)]
  | .page path component => [([], .page path component)]
  | .group path layout inner =>
    (leavesAll inner).map fun (around, leaf) => (⟨path, layout⟩ :: around, leaf)

def leavesAll : List Declaration → List (List Enclosure × Declaration)
  | [] => []
  | first :: rest => first.leaves ++ leavesAll rest

end

def component? : Declaration → Option String
  | .index component => some component
  | .page _ component => some component
  | .group _ _ _ => none

theorem leavesAll_eq (declarations : List Declaration) :
    leavesAll declarations = declarations.flatMap leaves := by
  induction declarations with
  | nil => rfl
  | cons first rest ih => rw [leavesAll, ih, List.flatMap_cons]

theorem leaves_declaration (page : Page) :
    page.declaration.leaves = [([], page.declaration)] := by
  unfold Page.declaration
  split <;> rfl

theorem component?_declaration (page : Page) :
    page.declaration.component? = some page.component := by
  unfold Page.declaration
  split <;> rfl

end Declaration

namespace RouteNode

def enclosure (node : RouteNode) : Enclosure := ⟨node.token, node.layout.map Page.component⟩

/-- The elements of the nodes on a way down, without the node where it starts. -/
def enclosures (node : RouteNode) (way : List String) : List Enclosure :=
  way.mapIdx fun position token =>
    ⟨token, (node.slot (way.take (position + 1))).layout.map Page.component⟩

def rootEnclosure (layout : Option Page) : List Enclosure :=
  (layout.map fun wrapper => ⟨rootToken, some wrapper.component⟩).toList

theorem enclosures_cons {node child : RouteNode} {token : String}
    (found : node.child? token = some child) (rest : List String) :
    node.enclosures (token :: rest) = child.enclosure :: child.enclosures rest := by
  unfold enclosures
  rw [List.mapIdx_cons]
  simp only [List.take_succ_cons, slot_cons, found, Option.getD_some]
  rw [List.take_zero, slot_nil, enclosure, token_of_child? found]

end RouteNode

namespace Declaration

open RouteNode

def innerOf (pages : List Page) (children : List RouteNode) : List Declaration :=
  (pages.mergeSort Page.before).map Page.declaration ++
    (Sibling.inOrder (ofChildren children)).flatten

theorem ofNode_eq (isRoot : Bool) (node : RouteNode) :
    ofNode isRoot node =
      enclose isRoot node.token node.layout (innerOf node.pages node.children) := by
  obtain ⟨token, layout, pages, children⟩ := node
  rw [ofNode]
  rfl

theorem leavesAll_enclose_node (token : String) (layout : Option Page)
    (inner : List Declaration) :
    leavesAll (enclose false token layout inner) =
      (leavesAll inner).map fun (around, leaf) =>
        (⟨token, layout.map Page.component⟩ :: around, leaf) := by
  cases inner with
  | nil => rfl
  | cons first rest => cases layout <;> simp [enclose, leavesAll, leaves]

theorem leavesAll_enclose_root (token : String) (layout : Option Page)
    (inner : List Declaration) :
    leavesAll (enclose true token layout inner) =
      (leavesAll inner).map fun (around, leaf) => (rootEnclosure layout ++ around, leaf) := by
  cases inner with
  | nil => rfl
  | cons first rest => cases layout <;> simp [enclose, leavesAll, leaves, rootEnclosure]

theorem leavesAll_innerOf (pages : List Page) (children : List RouteNode) :
    (leavesAll (innerOf pages children)).Perm
      (pages.map (fun page => ([], page.declaration)) ++
        children.flatMap fun child => leavesAll (ofNode false child)) := by
  have own : (leavesAll ((pages.mergeSort Page.before).map Page.declaration)).Perm
      (pages.map fun page => ([], page.declaration)) := by
    rw [leavesAll_eq, List.flatMap_map]
    simp only [leaves_declaration, ← List.map_eq_flatMap]
    exact (List.mergeSort_perm pages Page.before).map _
  have below : (leavesAll (Sibling.inOrder (ofChildren children)).flatten).Perm
      (children.flatMap fun child => leavesAll (ofNode false child)) := by
    have values : (ofChildren children).map Sibling.value = children.map (ofNode false) := by
      rw [ofChildren_eq, List.map_map]
      rfl
    have sorted := Sibling.inOrder_perm (ofChildren children)
    rw [values] at sorted
    refine ((leavesAll_eq _).symm ▸ sorted.flatten.flatMap_right leaves).trans ?_
    rw [List.flatten_eq_flatMap, List.flatMap_map, List.flatMap_assoc]
    simp only [id_eq, leavesAll_eq]
    exact List.Perm.refl _
  rw [innerOf, leavesAll_eq, List.flatMap_append, ← leavesAll_eq, ← leavesAll_eq]
  exact own.append below

theorem leavesAll_innerOf_located {node : RouteNode} (distinct : node.Distinct)
    (below : ∀ child ∈ node.children, (leavesAll (ofNode false child)).Perm
      (child.located.map fun (way, file) =>
        (child.enclosure :: child.enclosures way, file.declaration))) :
    (leavesAll (innerOf node.pages node.children)).Perm
      (node.located.map fun (way, file) => (node.enclosures way, file.declaration)) := by
  refine (leavesAll_innerOf node.pages node.children).trans ?_
  rw [located_eq, List.map_append, List.map_map, locatedAll_eq, List.map_flatMap]
  apply List.Perm.append_left
  apply List.Perm.flatMap_left
  intro child member
  have found := child?_token distinct.tokens member
  rw [List.map_map]
  apply (below child member).trans
  apply List.Perm.of_eq
  apply List.map_congr_left
  intro entry _
  exact congrArg (·, entry.2.declaration) (enclosures_cons found entry.1).symm

theorem leavesAll_ofNode {node : RouteNode} (distinct : node.Distinct) :
    (leavesAll (ofNode false node)).Perm
      (node.located.map fun (way, file) =>
        (node.enclosure :: node.enclosures way, file.declaration)) := by
  induction node using childrenFirst with
  | step token layout pages children ih =>
    rw [ofNode_eq, leavesAll_enclose_node]
    have inner := leavesAll_innerOf_located distinct fun child member =>
      ih child member (distinct.child member)
    have wrapped := inner.map fun (around, leaf) =>
      ((⟨token, layout.map Page.component⟩ : Enclosure) :: around, leaf)
    rw [List.map_map] at wrapped
    exact wrapped

/-- The leaves of a whole tree are its pages, inside the elements on the ways to them. -/
theorem leavesAll_ofRoot {root : RouteNode} (distinct : root.Distinct) :
    (leavesAll (ofRoot root)).Perm
      (root.located.map fun (way, file) =>
        (rootEnclosure root.layout ++ root.enclosures way, file.declaration)) := by
  rw [ofRoot_eq distinct, ofNode_eq, leavesAll_enclose_root]
  have inner := leavesAll_innerOf_located distinct fun child member =>
    leavesAll_ofNode (distinct.child member)
  have wrapped := inner.map fun (around, leaf) => (rootEnclosure root.layout ++ around, leaf)
  rw [List.map_map] at wrapped
  exact wrapped

open RouteTree

variable (workingDirectory pagesDirectory : Path)

theorem enclosures_grown (files : List Page) (tokens : List String) :
    (grown workingDirectory pagesDirectory files).enclosures tokens =
      tokens.mapIdx fun position token =>
        ⟨token, (layoutAt workingDirectory pagesDirectory files
          (tokens.take (position + 1))).map Page.component⟩ := by
  unfold enclosures
  congr 1
  funext position token
  have described := describes_slot_grown workingDirectory pagesDirectory files
    (tokens.take (position + 1))
  rw [described.layout]

theorem tokensOf_below {directories : List Name} {name : Name} {file : Page}
    (stands : file.source = pagesDirectory.below (directories ++ [name]))
    (free : Name.up ∉ directories) :
    tokensOf workingDirectory pagesDirectory file =
      directories.map fun directory => Route.token directory.text := by
  rw [tokensOf, stands, Page.directories_below workingDirectory pagesDirectory free]

theorem layout_ofFiles (sources : List Path) :
    (ofFiles workingDirectory pagesDirectory sources).root.layout =
      layoutAt workingDirectory pagesDirectory (Page.number sources) [] := by
  have described := describes_slot_grown workingDirectory pagesDirectory (Page.number sources) []
  rw [slot_nil] at described
  exact described.layout

/-- The tree of different files has one leaf for each file that is no layout. -/
theorem leavesAll_ofFiles {sources : List Path} (different : sources.Nodup) :
    let files := Page.number sources
    let root := (ofFiles workingDirectory pagesDirectory sources).root
    (leavesAll (ofRoot root)).Perm
      ((files.filter fun file => !file.isLayout).map fun file =>
        (rootEnclosure root.layout ++
          root.enclosures (tokensOf workingDirectory pagesDirectory file), file.declaration)) := by
  intro files root
  have unique : (files.map Page.source).Nodup := by
    rw [Page.map_source_number]
    exact different
  have distinct := distinct_ofFiles workingDirectory pagesDirectory sources
  have located := located_grown workingDirectory pagesDirectory files unique
  have leaves := (leavesAll_ofRoot distinct).trans (located.map _)
  rw [List.map_map] at leaves
  exact leaves

/-- The elements around a file with these tokens: the root, if it has a layout, and one for each
directory, with the layout listed last for the directories so far. -/
def elementsAround (files : List Page) (tokens : List String) : List Enclosure :=
  rootEnclosure (layoutAt workingDirectory pagesDirectory files []) ++
    tokens.mapIdx fun position token =>
      ⟨token, (layoutAt workingDirectory pagesDirectory files
        (tokens.take (position + 1))).map Page.component⟩

theorem leavesAll_filter_component {sources : List Path} (different : sources.Nodup) {file : Page}
    (listed : file ∈ Page.number sources) (routed : file.isLayout = false)
    {directories : List Name} {name : Name}
    (stands : file.source = pagesDirectory.below (directories ++ [name]))
    (free : Name.up ∉ directories) :
    let files := Page.number sources
    let root := (ofFiles workingDirectory pagesDirectory sources).root
    let tokens := directories.map fun directory => Route.token directory.text
    (leavesAll (ofRoot root)).filter (fun leaf => leaf.2.component? = some file.component) =
      [(elementsAround workingDirectory pagesDirectory files tokens, file.declaration)] := by
  intro files root tokens
  have way : tokensOf workingDirectory pagesDirectory file = tokens :=
    tokensOf_below workingDirectory pagesDirectory stands free
  have chosen := (leavesAll_ofFiles workingDirectory pagesDirectory different).filter
    fun leaf => leaf.2.component? = some file.component
  have own : files.filter (fun other => other.component = file.component) = [file] :=
    Page.filter_component (Page.nodup_component_number sources) listed
  have around : root.enclosures tokens = _ :=
    enclosures_grown workingDirectory pagesDirectory files tokens
  rw [List.filter_map] at chosen
  simp only [Function.comp_def, component?_declaration, Option.some.injEq] at chosen
  rw [List.filter_comm, own, List.filter_cons_of_pos (by simp [routed])] at chosen
  rw [elementsAround, ← around, ← layout_ofFiles workingDirectory pagesDirectory sources, ← way]
  exact List.perm_singleton.1 chosen

end Declaration

end PageRoutes
