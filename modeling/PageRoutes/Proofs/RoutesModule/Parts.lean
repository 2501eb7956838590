import PageRoutes.Proofs.Declaration.Blocks
import PageRoutes.RoutesModule

/-! The text of a routes module as a list of parts with line feeds between them.

The opening depends on the package that routes are imported from. Then comes one part for each
file, its lazy import, and later one part for each line of the outline, its block behind the
margin of all routes. This holds whatever the names of files look like; a part may be several
lines long.
-/

set_option autoImplicit false

namespace PageRoutes.Text

theorem joinLines_ne_nil {first : List Char} (filled : first ≠ []) (rest : List (List Char)) :
    joinLines (first :: rest) ≠ [] := by
  cases rest with
  | nil => simpa [joinLines] using filled
  | cons second others => simp [joinLines_cons_cons]

theorem joinLines_inline {inner : List (List Char)} (filled : inner ≠ [])
    (before behind : List (List Char)) :
    joinLines (before ++ joinLines inner :: behind) = joinLines (before ++ (inner ++ behind)) := by
  have nonempty : ∀ group ∈ before.map (fun line => [line]) ++ inner ::
      behind.map (fun line => [line]), group ≠ [] := by
    intro group member
    rcases List.mem_append.1 member with front | back
    · obtain ⟨line, _, rfl⟩ := List.mem_map.1 front
      exact List.cons_ne_nil line []
    · rcases List.mem_cons.1 back with rfl | back
      · exact filled
      · obtain ⟨line, _, rfl⟩ := List.mem_map.1 back
        exact List.cons_ne_nil line []
  have alone : ∀ parts : List (List Char), parts.map (joinLines ∘ fun line => [line]) = parts := by
    intro parts
    simp [Function.comp_def, joinLines]
  have joined := joinLines_flatten nonempty
  simpa [alone, List.map_map, ← List.flatMap_def] using joined

end PageRoutes.Text

namespace PageRoutes.RoutesModule

open Declaration

def imports (workingDirectory : Path) (files : List Page) (outputFile : Path) : List (List Char) :=
  files.map fun page => (lazyImport workingDirectory page outputFile).toList

def opening (importSource : String) : List (List Char) :=
  [header.toList, (frameworkImports importSource).toList, []]

def middle (files : List Page) : List (List Char) :=
  (if files = [] then [] else [[]]) ++
    ["const LoadingComponent = () => null;",
      "",
      "export const AppRoutes = () => (",
      "  <Suspense fallback=\x7b<LoadingComponent />\x7d>",
      "    <Routes>"].map String.toList

/-- The lines of the outline, each as it comes out of the text. -/
def routes (declarations : List Declaration) : List (List Char) :=
  (outlineAll 0 declarations).map (block routesIndent)

def closing : List (List Char) := ["    </Routes>", "  </Suspense>", ");"].map String.toList

def parts (workingDirectory : Path) (files : List Page) (declarations : List Declaration)
    (outputFile : Path) (importSource : String) : List (List Char) :=
  opening importSource ++
    (imports workingDirectory files outputFile ++ middle files ++ routes declarations) ++ closing

theorem toList_imports (workingDirectory : Path) (files : List Page) (outputFile : Path) :
    ("\n".intercalate (files.map fun page => lazyImport workingDirectory page outputFile)).toList =
      Text.joinLines (imports workingDirectory files outputFile) := by
  rw [String.toList_intercalate, List.map_map]
  rfl

theorem toList_routes (declarations : List Declaration) :
    (Text.indent routesIndent ("\n".intercalate (declarations.map Declaration.render))).toList =
      Text.joinLines (routes declarations) := by
  rw [Text.indent, String.toList_ofList, toList_intercalate_render_eq_blocks, indent_blocks]
  rfl

theorem imports_isEmpty_iff (workingDirectory : Path) (files : List Page) (outputFile : Path) :
    ("\n".intercalate (files.map fun page =>
      lazyImport workingDirectory page outputFile)).isEmpty = true ↔ files = [] := by
  rw [String.isEmpty_iff, ← String.toList_eq_nil_iff, toList_imports]
  cases files with
  | nil => simp [imports, Text.joinLines]
  | cons page rest =>
    refine iff_of_false (Text.joinLines_ne_nil ?_ _) (List.cons_ne_nil page rest)
    simp [lazyImport]

theorem block_ne_nil (margin : Nat) (entry : Nat × Line) : block margin entry ≠ [] := by
  obtain ⟨shown, shape⟩ := exists_block margin entry
  rw [shape]
  exact List.append_ne_nil_of_right_ne_nil _ (List.cons_ne_nil _ _)

theorem routes_isEmpty_iff (declarations : List Declaration) :
    (Text.indent routesIndent ("\n".intercalate (declarations.map Declaration.render))).isEmpty = true ↔
      routes declarations = [] := by
  rw [String.isEmpty_iff, ← String.toList_eq_nil_iff, toList_routes, routes]
  cases outlineAll 0 declarations with
  | nil => simp [Text.joinLines]
  | cons entry rest =>
    exact iff_of_false (Text.joinLines_ne_nil (block_ne_nil _ entry) _)
      (List.cons_ne_nil _ _)

/-- A module is put together from its parts. -/
theorem toList_assemble (workingDirectory : Path) (files : List Page)
    (declarations : List Declaration) (outputFile : Path) (importSource : String) :
    (assemble workingDirectory files (declarations.map Declaration.render) outputFile importSource).toList =
      Text.joinLines (parts workingDirectory files declarations outputFile importSource) ++
        ['\n'] := by
  -- An empty part leaves no line behind, so it makes no difference where the parts are joined.
  have lazily : ∀ before behind : List (List Char),
      Text.joinLines (before ++ ((if files = [] then [] else ["\n".intercalate
        (files.map fun page => lazyImport workingDirectory page outputFile), ""]).map
          String.toList ++ behind)) =
        Text.joinLines (before ++ (imports workingDirectory files outputFile ++
          ((if files = [] then [] else [[]]) ++ behind))) := by
    intro before behind
    by_cases none : files = []
    · simp [none, imports]
    · have filled : imports workingDirectory files outputFile ≠ [] := by simpa [imports] using none
      simp only [if_neg none, List.map_cons, toList_imports]
      exact Text.joinLines_inline filled before ([] :: behind)
  have routed : ∀ before behind : List (List Char),
      Text.joinLines (before ++ ((if routes declarations = [] then [] else [Text.indent
        routesIndent ("\n".intercalate (declarations.map Declaration.render))]).map
          String.toList ++ behind)) =
        Text.joinLines (before ++ (routes declarations ++ behind)) := by
    intro before behind
    by_cases bare : routes declarations = []
    · simp [bare]
    · simp only [if_neg bare, List.map_cons, toList_routes]
      exact Text.joinLines_inline bare before behind
  rw [assemble, String.toList_append, String.toList_intercalate]
  simp only [imports_isEmpty_iff, routes_isEmpty_iff, List.map_append, List.append_assoc]
  change Text.joinLines _ ++ _ = _
  rw [lazily, ← List.append_assoc, ← List.append_assoc, ← List.append_assoc, routed]
  simp only [parts, middle, opening, closing, List.map_cons, List.map_nil, List.append_assoc]
  rfl

/-- An import and a line of the routes stand in the module between two line feeds. -/
theorem exists_text_around (workingDirectory : Path) (files : List Page)
    (declarations : List Declaration) (outputFile : Path) (importSource : String)
    {part : List Char}
    (member : part ∈ imports workingDirectory files outputFile ∨ part ∈ routes declarations) :
    ∃ before behind,
      (assemble workingDirectory files (declarations.map Declaration.render) outputFile
        importSource).toList = before ++ '\n' :: (part ++ '\n' :: behind) := by
  have inner : part ∈ imports workingDirectory files outputFile ++ middle files ++
      routes declarations := by
    rcases member with lazily | routed
    · exact List.mem_append_left _ (List.mem_append_left _ lazily)
    · exact List.mem_append_right _ routed
  obtain ⟨front, back, split⟩ := List.append_of_mem inner
  have shape : parts workingDirectory files declarations outputFile importSource =
      (opening importSource ++ front) ++ ([part] ++ (back ++ closing)) := by
    rw [parts, split]
    simp only [List.append_assoc, List.cons_append, List.nil_append]
  have first : opening importSource ++ front ≠ [] := by simp [opening]
  have rest : back ++ closing ≠ [] := by simp [closing]
  refine ⟨Text.joinLines (opening importSource ++ front),
    Text.joinLines (back ++ closing) ++ ['\n'], ?_⟩
  rw [toList_assemble, shape, Text.joinLines_append first (by simp),
    Text.joinLines_append (List.cons_ne_nil _ _) rest]
  simp only [List.append_assoc, List.cons_append, Text.joinLines, List.intercalate_singleton]

end PageRoutes.RoutesModule
