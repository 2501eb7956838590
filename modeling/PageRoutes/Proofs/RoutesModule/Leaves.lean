import PageRoutes.Proofs.Declaration.Origins
import PageRoutes.Proofs.RoutesModule.Parts

/-! The leaves of pages in the text of a routes module.

A leaf is indented with everything around it, so its lines get the margin of its depth. A leaf of
one line moves as a whole. A token with a boundary makes a leaf of several lines, and then a
margin comes into its path attribute.
-/

set_option autoImplicit false

namespace PageRoutes.RoutesModule

open Declaration RouteTree

theorem leaf_behind_margin {file : Page} (word : IsWord file.component) (depth : Nat) :
    let leaf := file.declaration.render.toList
    let token := (Route.token file.name).toList
    let margin := List.replicate (routesIndent + indentWidth * depth) ' '
    (Text.indentChars margin leaf = margin ++ leaf ↔
      file.isIndex = true ∨ Text.Unbroken token) ∧
    (file.isIndex = false → ∃ shown behind,
      leaf = pathOpening ++ (token ++ '"' :: behind) ∧
      Text.indentChars margin leaf = margin ++ (pathOpening ++ (shown ++ '"' :: behind)) ∧
      (shown = token ↔ Text.Unbroken token)) := by
  intro leaf token margin
  have written : leaf = file.line.write.toList := congrArg String.toList (render_declaration file)
  have inside : 0 < routesIndent + indentWidth * depth := Nat.add_pos_left (by decide) _
  have words := word_of_line word
  constructor
  · rw [← forall_path_line, ← block_unchanged_iff words inside, block, ← written]
  · intro plain
    have named : file.line.path? = some (Route.token file.name) := path?_line plain
    obtain ⟨shown, behind, own, shape, same, _⟩ := exists_block_of_path named words inside
    rw [block, ← written] at shape
    rw [← written] at own
    exact ⟨shown, behind, own, shape, same⟩

variable (workingDirectory : Path) (config : Config)

/-- The leaf of a listed page stands in the module with the margin of its depth. Its own text is
unchanged exactly if the page is an index or its token has no boundary, and then it occurs in the
module; what stands in its path attribute is the token exactly if that has no boundary. -/
theorem leaf_in_module {sources : List Path} (different : sources.Nodup) {file : Page}
    (listed : file ∈ Page.number sources) (routed : file.isLayout = false) :
    let root := (ofFiles workingDirectory config.pagesPath sources).root
    let text := (render workingDirectory sources config).toList
    let leaf := file.declaration.render.toList
    let token := (Route.token file.name).toList
    let depth := (RouteNode.rootEnclosure root.layout).length +
      (tokensOf workingDirectory config.pagesPath file).length
    let margin := List.replicate (routesIndent + indentWidth * depth) ' '
    let shownLeaf := Text.indentChars margin leaf
    (∃ before behind, text = before ++ '\n' :: (shownLeaf ++ '\n' :: behind)) ∧
    (shownLeaf = margin ++ leaf ↔ file.isIndex = true ∨ Text.Unbroken token) ∧
    (file.isIndex = true ∨ Text.Unbroken token → leaf <:+: text) ∧
    (file.isIndex = false → ∃ shown behind,
      leaf = pathOpening ++ (token ++ '"' :: behind) ∧
      shownLeaf = margin ++ (pathOpening ++ (shown ++ '"' :: behind)) ∧
      (shown = token ↔ Text.Unbroken token)) := by
  intro root text leaf token depth margin shownLeaf
  have stands : (depth, file.line) ∈ outlineAll 0 (ofRoot root) :=
    line_of_listed_page workingDirectory config.pagesPath different listed routed
  obtain ⟨unchanged, inAttribute⟩ := leaf_behind_margin (isWord_of_mem_number listed) depth
  obtain ⟨before, behind, around⟩ := exists_text_around workingDirectory (Page.number sources)
    (ofRoot root) config.outputPath config.importSource
    (.inr (List.mem_map_of_mem stands : block routesIndent (depth, file.line) ∈ routes _))
  have around : text = before ++ '\n' :: (shownLeaf ++ '\n' :: behind) := by
    rw [block, ← render_declaration file] at around
    exact around
  refine ⟨⟨before, behind, around⟩, unchanged, fun plain => ?_, inAttribute⟩
  refine ⟨before ++ '\n' :: margin, '\n' :: behind, ?_⟩
  have moved : shownLeaf = margin ++ leaf := unchanged.2 plain
  rw [around, moved]
  simp only [List.append_assoc, List.cons_append]

/-- A page with a layout around it and a directory above. -/
theorem leaf_of_enclosed_page :
    let config : Config :=
      ⟨Path.root, "p", "router.tsx", "react-router-dom", by decide, by decide⟩
    let sources := ["/p/layout.tsx", "/p/docs/intro.tsx"].map Path.ofString
    let file : Page := ⟨Path.ofString "/p/docs/intro.tsx", "Page1"⟩
    sources.Nodup ∧ file ∈ Page.number sources ∧ file.isLayout = false ∧
      file.declaration.render.toList <:+: (render Path.root sources config).toList := by
  intro config sources file
  have different : sources.Nodup := by decide +kernel
  have listed : file ∈ Page.number sources := by decide +kernel
  have routed : file.isLayout = false := by decide +kernel
  have whole : Text.Unbroken (Route.token file.name).toList := by decide +kernel
  obtain ⟨_, _, occurs, _⟩ := leaf_in_module Path.root config different listed routed
  exact ⟨different, listed, routed, occurs (.inr whole)⟩

/-- A line feed in the name of a page brings a margin into its path. -/
theorem leaf_of_broken_name :
    ¬ ∀ (workingDirectory : Path) (config : Config) (sources : List Path), sources.Nodup →
      (∀ source ∈ sources, source.IsUnder config.pagesPath) →
      ∀ file ∈ Page.number sources, file.isLayout = false →
        file.declaration.render.toList <:+:
          (render workingDirectory sources config).toList := by
  intro claimed
  let config : Config :=
    ⟨Path.root, "p", "router.tsx", "react-router-dom", by decide, by decide⟩
  let file : Page := ⟨Path.ofString "/p/a\nb.tsx", "Page0"⟩
  have routed : file.isLayout = false := by decide +kernel
  have numbered : Page.number [file.source] = [file] := by decide +kernel
  have tokens : tokensOf Path.root config.pagesPath file = [] := by decide +kernel
  have page : file.declaration = .page "a\nb" "Page0" := by
    have index : file.isIndex = false := by decide +kernel
    have token : Route.token file.name = "a\nb" := by decide +kernel
    rw [Page.declaration, if_neg (by simp [index]), token]
  have grows : (ofFiles Path.root config.pagesPath [file.source]).root =
      ⟨"/", none, [file], []⟩ := by
    rw [ofFiles, numbered, List.foldl_cons, List.foldl_nil, RouteTree.insert, tokens,
      RouteNode.changeAt, RouteNode.attach, if_neg (by simp [routed])]
    rfl
  have declared : ofRoot (ofFiles Path.root config.pagesPath [file.source]).root =
      [.page "a\nb" "Page0"] := by
    rw [ofRoot_eq (distinct_ofFiles Path.root config.pagesPath [file.source]), grows, ofNode_eq,
      innerOf, List.mergeSort_singleton, List.map_singleton, page, ofChildren, Sibling.inOrder,
      List.mergeSort_nil]
    rfl
  have occurs := claimed Path.root config [file.source] (List.nodup_singleton _)
    (by decide +kernel) file (numbered ▸ List.mem_cons_self) routed
  -- The text is searched as its parts, without rendering and indenting the declaration again.
  have absent : ¬ (Declaration.page "a\nb" "Page0").render.toList <:+:
      Text.joinLines (parts Path.root [file] [.page "a\nb" "Page0"] config.outputPath
        config.importSource) ++ ['\n'] := by
    decide +kernel
  rw [render, declared, toList_assemble, page] at occurs
  exact absent occurs

end PageRoutes.RoutesModule
