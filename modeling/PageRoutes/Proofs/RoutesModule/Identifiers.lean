import PageRoutes.Proofs.Declaration.Elements
import PageRoutes.Proofs.Declaration.Origins
import PageRoutes.Proofs.RoutesModule.Parts

/-! The identifiers of a routes module: what it declares and what its routes refer to.

A part declares a name if it begins the way a lazy import does, and places one if it ends in an
element attribute. The blocks of routes never declare, since all of them are indented, and no
other part places. Main statement: the listed files get different identifiers, the module declares
exactly these, in the order of the list, and places none of them twice and nothing else.
-/

set_option autoImplicit false

namespace PageRoutes.RoutesModule

open Declaration RouteTree

/-- The name that a part declares to be loaded lazily, and what follows the quote that opens the
argument of the import. -/
def lazyCall? (part : List Char) : Option (String × List Char) :=
  (behind? "const ".toList part).bind fun named =>
    (behind? " = lazy(() => import('".toList (named.dropWhile (· ≠ ' '))).map fun quoted =>
      (String.ofList (named.takeWhile (· ≠ ' ')), quoted)

def lazyName? (part : List Char) : Option String := (lazyCall? part).map Prod.fst

theorem lazyCall?_lazyImport (workingDirectory : Path) {page : Page} (outputFile : Path)
    (word : ' ' ∉ page.component.toList) :
    lazyCall? (lazyImport workingDirectory page outputFile).toList =
      some (page.component,
        (specifier workingDirectory page outputFile).toList ++ "'));".toList) := by
  let quoted := (specifier workingDirectory page outputFile).toList ++ "'));".toList
  have shape : (lazyImport workingDirectory page outputFile).toList =
      "const ".toList ++
        (page.component.toList ++ ' ' :: ("= lazy(() => import('".toList ++ quoted)) := by
    simp [lazyImport, quoted]
  have cut := cut_before ("= lazy(() => import('".toList ++ quoted) word
  have opened : behind? " = lazy(() => import('".toList
      (' ' :: ("= lazy(() => import('".toList ++ quoted)) = some quoted :=
    behind?_append " = lazy(() => import('".toList quoted
  rw [shape, lazyCall?, behind?_append, Option.bind_some, cut.1, cut.2, opened, Option.map_some,
    String.ofList_toList]

theorem lazyName?_imports (workingDirectory : Path) {files : List Page} (outputFile : Path)
    (words : ∀ page ∈ files, ' ' ∉ page.component.toList) :
    (imports workingDirectory files outputFile).filterMap lazyName? =
      files.map Page.component := by
  rw [imports, List.filterMap_map, ← List.filterMap_eq_map]
  apply List.filterMap_congr
  intro page listed
  rw [Function.comp_apply, lazyName?, lazyCall?_lazyImport _ _ (words page listed)]
  rfl

theorem head?_toList_append {first : String} {c : Char} (starts : first.toList.head? = some c)
    (second : String) : (first ++ second).toList.head? = some c := by
  rw [String.toList_append, List.head?_append, starts, Option.some_or]

theorem lazyName?_of_head {part : List Char} (other : part.head? ≠ some 'c') :
    lazyName? part = none := by
  cases part with
  | nil => rfl
  | cons c rest =>
    have different : ('c' == c) = false := by
      simpa using fun same : 'c' = c => other (congrArg some same.symm)
    have keyword : "const ".toList = 'c' :: "onst ".toList := by decide
    have apart : "const ".toList.isPrefixOf (c :: rest) = false := by
      rw [keyword, List.isPrefixOf, different, Bool.false_and]
    rw [lazyName?, lazyCall?, behind?, apart]
    rfl

theorem lazyName?_routes (declarations : List Declaration) :
    (routes declarations).filterMap lazyName? = [] := by
  rw [List.filterMap_eq_nil_iff, routes]
  intro part listed
  obtain ⟨entry, _, rfl⟩ := List.mem_map.1 listed
  -- A block begins with a blank, and a declaration with its keyword.
  obtain ⟨shown, shape⟩ := exists_block routesIndent entry
  apply lazyName?_of_head
  rw [shape, routesIndent, ← List.replicate_append_replicate]
  simp [List.replicate]

theorem lazyName?_middle (files : List Page) : (middle files).filterMap lazyName? = [] := by
  rw [middle, List.filterMap_append]
  by_cases none : files = []
  · rw [if_pos none]
    decide
  · rw [if_neg none]
    decide

theorem lazyName?_opening (importSource : String) :
    (opening importSource).filterMap lazyName? = [] := by
  have banner : lazyName? header.toList = none := lazyName?_of_head (by decide)
  have keyword : (frameworkImports importSource).toList.head? = some 'i' :=
    head?_toList_append (head?_toList_append (by decide) importSource) "';"
  have framework : lazyName? (frameworkImports importSource).toList = none :=
    lazyName?_of_head (by simp [keyword])
  have blank : lazyName? [] = none := rfl
  rw [opening, List.filterMap_cons_none banner, List.filterMap_cons_none framework,
    List.filterMap_cons_none blank, List.filterMap_nil]

theorem lazyName?_parts (workingDirectory : Path) {files : List Page}
    (declarations : List Declaration) (outputFile : Path) (importSource : String)
    (words : ∀ page ∈ files, ' ' ∉ page.component.toList) :
    (parts workingDirectory files declarations outputFile importSource).filterMap lazyName? =
      files.map Page.component := by
  have closed : closing.filterMap lazyName? = [] := by decide
  simp only [parts, List.filterMap_append, lazyName?_opening, lazyName?_middle, lazyName?_routes,
    closed, lazyName?_imports workingDirectory outputFile words, List.nil_append, List.append_nil]

theorem placedName?_imports (workingDirectory : Path) (files : List Page) (outputFile : Path) :
    (imports workingDirectory files outputFile).filterMap placedName? = [] := by
  rw [List.filterMap_eq_nil_iff, imports]
  intro part listed
  obtain ⟨page, _, rfl⟩ := List.mem_map.1 listed
  rw [lazyImport, String.toList_append]
  exact placedName?_of_apart (by decide) (by decide) _

theorem placedName?_opening (importSource : String) :
    (opening importSource).filterMap placedName? = [] := by
  have banner : placedName? header.toList = none := by decide +kernel
  have framework : placedName? (frameworkImports importSource).toList = none := by
    have ends : (frameworkImports importSource).toList = _ ++ "';".toList := String.toList_append
    rw [ends]
    exact placedName?_of_apart (by decide) (by decide) _
  have blank : placedName? [] = none := by decide
  rw [opening, List.filterMap_cons_none banner, List.filterMap_cons_none framework,
    List.filterMap_cons_none blank, List.filterMap_nil]

theorem placedName?_middle (files : List Page) : (middle files).filterMap placedName? = [] := by
  rw [middle, List.filterMap_append]
  by_cases none : files = []
  · rw [if_pos none]
    decide
  · rw [if_neg none]
    decide

theorem placedName?_routes {declarations : List Declaration}
    (words : ∀ entry ∈ outlineAll 0 declarations, ∀ component ∈ entry.2.component?,
      IsWord component) : (routes declarations).filterMap placedName? = placed declarations := by
  rw [routes, List.filterMap_map, placed]
  exact List.filterMap_congr fun entry member =>
    placedName?_block (words entry member) routesIndent entry.1

theorem placedName?_parts (workingDirectory : Path) (files : List Page)
    {declarations : List Declaration} (outputFile : Path) (importSource : String)
    (words : ∀ entry ∈ outlineAll 0 declarations, ∀ component ∈ entry.2.component?,
      IsWord component) :
    (parts workingDirectory files declarations outputFile importSource).filterMap placedName? =
      placed declarations := by
  have closed : closing.filterMap placedName? = [] := by decide
  simp only [parts, List.filterMap_append, placedName?_opening, placedName?_middle,
    placedName?_imports, placedName?_routes words, closed, List.nil_append, List.append_nil]

/-- The listed files get the identifiers of their positions, which differ. The module declares
each of them once, in the order of the list. What its parts place in element attributes are these
identifiers and no others, none of them twice; those of different pages are all placed. -/
theorem identifiers_of_module (workingDirectory pagesDirectory : Path) (sources : List Path)
    (outputFile : Path) (importSource : String) :
    let tree := ofFiles workingDirectory pagesDirectory sources
    let emitted := (ofRoot tree.root).map Declaration.render
    let written := parts workingDirectory tree.files (ofRoot tree.root) outputFile importSource
    let identifiers := (List.range sources.length).map Page.identifier
    let placements := written.filterMap placedName?
    (tree.files.map Page.source = sources ∧ tree.files.map Page.component = identifiers ∧
      identifiers.Nodup) ∧
    ((assemble workingDirectory tree.files emitted outputFile importSource).toList =
        Text.joinLines written ++ ['\n'] ∧
      written.filterMap lazyName? = identifiers) ∧
    placements.Subperm identifiers ∧ placements.Nodup ∧
    (sources.Nodup → ∀ file ∈ tree.files, file.isLayout = false →
      placements.count file.component = 1) := by
  intro tree emitted written identifiers placements
  have components : tree.files.map Page.component = identifiers :=
    Page.map_component_number sources
  have different : identifiers.Nodup := components ▸ Page.nodup_component_number sources
  have read : placements = placed (ofRoot tree.root) :=
    placedName?_parts workingDirectory tree.files outputFile importSource
      fun _ => isWord_of_mem_outline
  have few : placements.Subperm identifiers :=
    read ▸ components ▸ placed_ofFiles workingDirectory pagesDirectory sources
  -- What is placed is among the identifiers, which differ.
  have once : placements.Nodup := by
    obtain ⟨kept, same, within⟩ := few
    exact same.nodup_iff.1 (different.sublist within)
  refine ⟨⟨Page.map_source_number sources, components, different⟩, ⟨toList_assemble _ _ _ _ _, ?_⟩,
    few, once, fun apart file listed routed => ?_⟩
  · rw [← components]
    exact lazyName?_parts workingDirectory (ofRoot tree.root) outputFile importSource
      fun page listed => (isWord_of_mem_number listed).no_space
  · apply List.count_eq_one_of_mem once
    have leaves := leavesAll_ofFiles workingDirectory pagesDirectory apart
    rw [read]
    refine mem_placed_of_leaf ((leaves.mem_iff).2 (List.mem_map_of_mem ?_))
      (component?_declaration file)
    exact List.mem_filter.2 ⟨listed, by simp [routed]⟩

/-- A page beside a layout that another one replaces. -/
theorem identifiers_of_replaced_layout :
    let sources := ["/p/layout.tsx", "/p/about.tsx", "/p/layout.jsx"].map Path.ofString
    let file : Page := ⟨Path.ofString "/p/about.tsx", "Page1"⟩
    let tree := ofFiles Path.root (Path.ofString "/p") sources
    sources.Nodup ∧ file ∈ tree.files ∧ file.isLayout = false ∧
      ((parts Path.root tree.files (ofRoot tree.root) (Path.ofString "/p/router.tsx")
        "react-router-dom").filterMap placedName?).count "Page1" = 1 := by
  intro sources file tree
  have different : sources.Nodup := by decide +kernel
  have listed : file ∈ tree.files := (by decide +kernel : file ∈ Page.number sources)
  have routed : file.isLayout = false := by decide +kernel
  obtain ⟨_, _, _, _, once⟩ := identifiers_of_module Path.root (Path.ofString "/p") sources
    (Path.ofString "/p/router.tsx") "react-router-dom"
  exact ⟨different, listed, routed, once different file listed routed⟩

end PageRoutes.RoutesModule
