import PageRoutes.Proofs.RoutesModule.Identifiers
import PageRoutes.Proofs.RoutesModule.Leaves
import PageRoutes.Proofs.Text.StringLiteral

/-! Names between the quotes of a routes module.

A name is written as it is, between single quotes in an import and between double quotes in a
path attribute. Main statement: an import is read back exactly if the way to its file can stand
for itself in a string literal, and a path attribute exactly if its path is quotable.
-/

set_option autoImplicit false

namespace PageRoutes.RoutesModule

open Declaration RouteTree

/-- The name that a part declares and the value of the literal that it imports, if the literal is
all of the argument. -/
def lazyImport? (part : List Char) : Option (String × List Nat) :=
  (lazyCall? part).bind fun (name, quoted) =>
    (Text.literal? quoted).bind fun (value, rest) =>
      if rest = "));".toList then some (name, value) else none

theorem verbatim_specifier_iff (way : List Char) :
    Text.IsVerbatim ("./".toList ++ way) ↔ Text.IsVerbatim way := by
  have dots : Text.IsVerbatim "./".toList := by decide
  exact List.forall_mem_append.trans (and_iff_right dots)

theorem lazyImport?_eq_iff (workingDirectory : Path) {page : Page} (outputFile : Path)
    (word : ' ' ∉ page.component.toList) :
    let way := (Path.relativeText workingDirectory page.source outputFile.parent).toList
    lazyImport? (lazyImport workingDirectory page outputFile).toList =
        some (page.component, Text.units ("./".toList ++ way)) ↔
      Text.IsVerbatim way := by
  intro way
  have closes : "'));".toList = '\'' :: "));".toList := by decide
  have text : (specifier workingDirectory page outputFile).toList = "./".toList ++ way :=
    String.toList_append
  have literal := Text.literal?_eq_units_iff ("./".toList ++ way) "));".toList
  rw [verbatim_specifier_iff] at literal
  rw [← literal, lazyImport?, lazyCall?_lazyImport workingDirectory outputFile word,
    Option.bind_some, closes, text]
  dsimp only
  -- The same literal is read on both sides, whatever it is.
  generalize "));".toList = ending
  generalize Text.literal? ("./".toList ++ way ++ '\'' :: ending) = read
  cases read with
  | none => simp
  | some found =>
    obtain ⟨value, rest⟩ := found
    by_cases complete : rest = ending <;> simp [complete]

theorem exists_quoted_of_path {line : Line} {path : String} (named : line.path? = some path)
    (words : ∀ component ∈ line.component?, IsWord component) (depth : Nat) :
    ∃ quoted, block routesIndent (depth, line) =
        List.replicate (routesIndent + indentWidth * depth) ' ' ++ (pathOpening ++ quoted) ∧
      (quoted.takeWhile (· ≠ '"') = path.toList ↔ IsQuotable path) := by
  obtain ⟨shown, behind, _, shape, same, kept⟩ :=
    exists_block_of_path named words
      (Nat.add_pos_left (show 0 < routesIndent by decide) (indentWidth * depth))
  exact ⟨shown ++ '"' :: behind, shape, takeWhile_shown_iff behind same kept⟩

/-- Every import stands in the module, and is read back exactly if the way to its file is written
verbatim. Every path among the routes is the token of a listed page, of a directory of a listed
file, or of the root; it stands in the module, and is read back exactly if it is quotable. -/
theorem quotes_of_module (workingDirectory : Path) (config : Config) (sources : List Path) :
    let tree := ofFiles workingDirectory config.pagesPath sources
    let text := (render workingDirectory sources config).toList
    (∀ file ∈ tree.files,
      let way := (Path.relativeText workingDirectory file.source config.outputPath.parent).toList
      let declaration := (lazyImport workingDirectory file config.outputPath).toList
      (∃ before behind, text = before ++ '\n' :: (declaration ++ '\n' :: behind)) ∧
      (lazyImport? declaration = some (file.component, Text.units ("./".toList ++ way)) ↔
        Text.IsVerbatim way)) ∧
    ∀ entry ∈ outlineAll 0 (ofRoot tree.root), ∀ path, entry.2.path? = some path →
      ((∃ file ∈ tree.files, file.isLayout = false ∧ entry.2 = file.line ∧
          path = Route.token file.name) ∨
        ((∃ layout, entry.2 = .opening path layout) ∧
          (path = RouteNode.rootToken ∨
            ∃ file ∈ tree.files, path ∈ tokensOf workingDirectory config.pagesPath file))) ∧
      (∃ before behind,
        text = before ++ '\n' :: (block routesIndent entry ++ '\n' :: behind)) ∧
      ∃ quoted, block routesIndent entry =
          List.replicate (routesIndent + indentWidth * entry.1) ' ' ++ (pathOpening ++ quoted) ∧
        (quoted.takeWhile (· ≠ '"') = path.toList ↔ IsQuotable path) := by
  intro tree text
  refine ⟨fun file listed => ⟨?_, ?_⟩, fun entry member path named => ⟨?_, ?_, ?_⟩⟩
  · exact exists_text_around workingDirectory tree.files (ofRoot tree.root) config.outputPath
      config.importSource (.inl (List.mem_map_of_mem listed))
  · exact lazyImport?_eq_iff workingDirectory config.outputPath
      (isWord_of_mem_number listed).no_space
  · exact path_of_listed member named
  · exact exists_text_around workingDirectory tree.files (ofRoot tree.root) config.outputPath
      config.importSource (.inr (List.mem_map_of_mem member))
  · exact exists_quoted_of_path named (isWord_of_mem_outline member) entry.1

/-- A page with nothing in its names that would have to be escaped. -/
theorem quotes_of_plain_names :
    let config : Config :=
      ⟨Path.root, "p", "router.tsx", "react-router-dom", by decide, by decide⟩
    let file : Page := ⟨Path.ofString "/p/docs/intro.tsx", "Page0"⟩
    file ∈ Page.number [file.source] ∧ file.line.path? = some "intro" ∧
      lazyImport? (lazyImport Path.root file config.outputPath).toList =
        some ("Page0", Text.units "./p/docs/intro.tsx".toList) ∧
      ∃ quoted, block routesIndent (1, file.line) =
          List.replicate 8 ' ' ++ (pathOpening ++ quoted) ∧
        quoted.takeWhile (· ≠ '"') = "intro".toList := by
  intro config file
  have numbered : Page.number [file.source] = [file] := by decide +kernel
  have listed : file ∈ Page.number [file.source] := numbered ▸ List.mem_cons_self
  have named : file.line.path? = some "intro" := by decide +kernel
  obtain ⟨imported, routed⟩ := quotes_of_module Path.root config [file.source]
  have way : (Path.relativeText Path.root file.source config.outputPath.parent).toList =
      "p/docs/intro.tsx".toList := by
    decide +kernel
  let root := (ofFiles Path.root config.pagesPath [file.source]).root
  have depth : (RouteNode.rootEnclosure root.layout).length +
      (tokensOf Path.root config.pagesPath file).length = 1 := by
    decide +kernel
  have stands : (1, file.line) ∈ outlineAll 0 (ofRoot root) :=
    depth ▸ line_of_listed_page Path.root config.pagesPath (List.nodup_singleton _) listed
      (by decide +kernel)
  obtain ⟨_, _, quoted, shape, read⟩ := routed _ stands "intro" named
  refine ⟨listed, named, ?_, quoted, ?_, read.2 (by decide)⟩
  · have verbatim := (imported file listed).2.2 (by rw [way]; decide)
    rw [way] at verbatim
    exact verbatim
  · exact shape

def HasWholeNames (pagesDirectory source : Path) : Prop :=
  source.IsUnder pagesDirectory ∧ ∀ name ∈ source.names, Text.Unbroken name.text.toList

instance (pagesDirectory : Path) : DecidablePred (HasWholeNames pagesDirectory) := fun source =>
  inferInstanceAs (Decidable (source.IsUnder pagesDirectory ∧
    ∀ name ∈ source.names, Text.Unbroken name.text.toList))

/-- A quote in a name ends the literal of its import, and a double quote its path attribute. -/
theorem names_out_of_quotes :
    (¬ ∀ (workingDirectory : Path) (config : Config) (sources : List Path), sources.Nodup →
      (∀ source ∈ sources, HasWholeNames config.pagesPath source) →
      ∀ file ∈ Page.number sources,
        let way := (Path.relativeText workingDirectory file.source
          config.outputPath.parent).toList
        lazyImport? (lazyImport workingDirectory file config.outputPath).toList =
          some (file.component, Text.units ("./".toList ++ way))) ∧
    ¬ ∀ (workingDirectory : Path) (config : Config) (sources : List Path), sources.Nodup →
      (∀ source ∈ sources, HasWholeNames config.pagesPath source) →
      ∀ entry ∈ outlineAll 0 (ofRoot (ofFiles workingDirectory config.pagesPath sources).root),
      ∀ path, entry.2.path? = some path → ∀ quoted,
        block routesIndent entry = List.replicate (routesIndent + indentWidth * entry.1) ' ' ++
          (pathOpening ++ quoted) →
        quoted.takeWhile (· ≠ '"') = path.toList := by
  let config : Config :=
    ⟨Path.root, "p", "router.tsx", "react-router-dom", by decide, by decide⟩
  constructor
  · intro claimed
    let file : Page := ⟨Path.ofString "/p/it's.tsx", "Page0"⟩
    have numbered : Page.number [file.source] = [file] := by decide +kernel
    have read := claimed Path.root config [file.source] (List.nodup_singleton _)
      (by decide +kernel) file (numbered ▸ List.mem_cons_self)
    have verbatim := (lazyImport?_eq_iff Path.root config.outputPath (by decide +kernel)).1 read
    have quoted : ¬ Text.IsVerbatim (Path.relativeText Path.root file.source
        config.outputPath.parent).toList := by
      decide +kernel
    exact quoted verbatim
  · intro claimed
    let file : Page := ⟨Path.ofString "/p/a\"b.tsx", "Page0"⟩
    have numbered : Page.number [file.source] = [file] := by decide +kernel
    have listed : file ∈ Page.number [file.source] := numbered ▸ List.mem_cons_self
    have stands := line_of_listed_page Path.root config.pagesPath (List.nodup_singleton _) listed
      (by decide +kernel)
    have named : file.line.path? = some "a\"b" := by decide +kernel
    obtain ⟨quoted, shape, read⟩ := exists_quoted_of_path named (isWord_of_mem_outline stands) _
    have unquotable : ¬ IsQuotable "a\"b" := by decide
    exact unquotable (read.1 (claimed Path.root config [file.source] (List.nodup_singleton _)
      (by decide +kernel) _ stands _ named quoted shape))

end PageRoutes.RoutesModule
