import PageRoutes.Proofs.Declaration.Blocks
import PageRoutes.Proofs.Declaration.Enclosure
import PageRoutes.Proofs.RouteTree.Attached

/-! The components that stand in element attributes.

A page stands in one element and a layout in the element of its group, so what a tree declares
places its files at most once each. Every leaf is placed, hence every listed page of a list of
different files.
-/

set_option autoImplicit false

namespace PageRoutes.Declaration

def Line.component? : Line → Option String
  | .index component => some component
  | .page _ component => some component
  | .opening _ layout => layout
  | .closing => none

/-- The components that the lines of declarations place, from the first line to the last. -/
def placed (declarations : List Declaration) : List String :=
  (outlineAll 0 declarations).filterMap fun entry => entry.2.component?

theorem outlineAll_succ (depth : Nat) (declarations : List Declaration) :
    outlineAll (depth + 1) declarations =
      (outlineAll depth declarations).map fun entry => (entry.1 + 1, entry.2) := by
  rw [outlineAll_eq, outlineAll_eq, List.map_flatMap]
  exact List.flatMap_congr fun declaration _ => outline_succ declaration depth

theorem placed_append (first second : List Declaration) :
    placed (first ++ second) = placed first ++ placed second := by
  simp only [placed, outlineAll_eq, List.flatMap_append, List.filterMap_append]

theorem placed_eq_flatMap (declarations : List Declaration) :
    placed declarations = declarations.flatMap fun declaration => placed [declaration] := by
  induction declarations with
  | nil => rfl
  | cons first rest ih => rw [List.flatMap_cons, ← ih, ← placed_append, List.singleton_append]

theorem placed_group (path : String) (layout : Option String) (inner : List Declaration) :
    placed [.group path layout inner] = layout.toList ++ placed inner := by
  have below : (outlineAll 1 inner).filterMap (fun entry => entry.2.component?) = placed inner := by
    rw [outlineAll_succ, List.filterMap_map]
    rfl
  rw [placed, outlineAll_eq, List.flatMap_singleton, outline, List.cons_append,
    List.filterMap_cons, List.filterMap_append, below]
  cases layout <;> simp [Line.component?]

theorem placed_declaration (page : Page) : placed [page.declaration] = [page.component] := by
  unfold Page.declaration
  split <;> rfl

theorem placed_enclose (isRoot : Bool) (token : String) (layout : Option Page)
    (inner : List Declaration) :
    (placed (enclose isRoot token layout inner)).Sublist
      ((layout.map Page.component).toList ++ placed inner) := by
  unfold enclose
  split
  · exact List.nil_sublist _
  · split
    · rw [placed_group]
      exact List.Sublist.refl _
    · split
      · exact List.Sublist.refl _
      · rw [placed_group]
        exact List.Sublist.refl _

theorem placed_innerOf (pages : List Page) (children : List RouteNode) :
    (placed (innerOf pages children)).Perm
      (pages.map Page.component ++ children.flatMap fun child => placed (ofNode false child)) := by
  have own : placed ((pages.mergeSort Page.before).map Page.declaration) =
      (pages.mergeSort Page.before).map Page.component := by
    rw [placed_eq_flatMap, List.flatMap_map, List.map_eq_flatMap]
    simp only [placed_declaration]
  have below : (placed (Sibling.inOrder (ofChildren children)).flatten).Perm
      (children.flatMap fun child => placed (ofNode false child)) := by
    have values : (ofChildren children).map Sibling.value = children.map (ofNode false) := by
      rw [ofChildren_eq, List.map_map]
      rfl
    -- Sorting moves whole children, so what they place is only permuted.
    have sorted := Sibling.inOrder_perm (ofChildren children)
    rw [values] at sorted
    rw [placed_eq_flatMap]
    refine (sorted.flatten.flatMap_right _).trans (List.Perm.of_eq ?_)
    rw [List.flatten_eq_flatMap, List.flatMap_map, List.flatMap_assoc]
    simp only [id_eq, ← placed_eq_flatMap]
  rw [innerOf, placed_append, own]
  exact ((List.mergeSort_perm pages Page.before).map _).append below

/-- What a node declares places no file more often than the node holds it. -/
theorem placed_ofNode (isRoot : Bool) (node : RouteNode) :
    (placed (ofNode isRoot node)).Subperm (node.attached.map Page.component) := by
  induction node using RouteNode.childrenFirst generalizing isRoot with
  | step token layout pages children ih =>
    have below : (children.flatMap fun child => placed (ofNode false child)).Subperm
        ((children.flatMap RouteNode.attached).map Page.component) := by
      induction children with
      | nil => exact List.Subperm.refl _
      | cons child rest inner =>
        rw [List.flatMap_cons, List.flatMap_cons, List.map_append]
        exact (ih child List.mem_cons_self false).append
          (inner fun other member => ih other (List.mem_cons_of_mem child member))
    rw [ofNode_eq, RouteNode.attached_eq, List.map_append, List.map_append]
    refine (placed_enclose isRoot token layout _).subperm.trans ?_
    have wrapper : (layout.map Page.component).toList = layout.toList.map Page.component := by
      cases layout <;> rfl
    rw [wrapper]
    refine (List.subperm_append_left _).2 ((placed_innerOf pages children).subperm.trans ?_)
    exact (List.subperm_append_left _).2 below

theorem outline_subset_of_leaf {declarations : List Declaration} {around : List Enclosure}
    {leaf : Declaration} (member : (around, leaf) ∈ leavesAll declarations) (depth : Nat) :
    leaf.outline (depth + around.length) ⊆ outlineAll depth declarations := by
  rw [leavesAll_eq, List.mem_flatMap] at member
  obtain ⟨declaration, listed, inside⟩ := member
  -- The induction is on the declaration that holds the leaf, one element after the other.
  suffices within : leaf.outline (depth + around.length) ⊆ declaration.outline depth by
    rw [outlineAll_eq]
    exact fun entry found => List.mem_flatMap.2 ⟨declaration, listed, within found⟩
  clear listed
  induction declaration using innerFirst generalizing around depth with
  | index component =>
    cases List.mem_singleton.1 inside
    exact List.Subset.refl _
  | page path component =>
    cases List.mem_singleton.1 inside
    exact List.Subset.refl _
  | group path layout inner ih =>
    obtain ⟨⟨deeper, _⟩, below, same⟩ := List.mem_map.1 inside
    cases same
    rw [leavesAll_eq, List.mem_flatMap] at below
    obtain ⟨declaration, enclosed, found⟩ := below
    have within := ih declaration enclosed (depth + 1) found
    rw [List.length_cons, Nat.add_comm deeper.length, ← Nat.add_assoc, outline, outlineAll_eq]
    intro entry written
    apply List.mem_append_left
    exact List.mem_cons_of_mem _ (List.mem_flatMap.2 ⟨declaration, enclosed, within written⟩)

theorem mem_placed_of_leaf {declarations : List Declaration} {around : List Enclosure}
    {leaf : Declaration} {component : String} (member : (around, leaf) ∈ leavesAll declarations)
    (named : leaf.component? = some component) : component ∈ placed declarations := by
  have within := outline_subset_of_leaf member 0
  cases leaf with
  | index other =>
    cases named
    exact List.mem_filterMap.2 ⟨_, within List.mem_cons_self, rfl⟩
  | page path other =>
    cases named
    exact List.mem_filterMap.2 ⟨_, within List.mem_cons_self, rfl⟩
  | group path layout inner => cases named

end PageRoutes.Declaration
