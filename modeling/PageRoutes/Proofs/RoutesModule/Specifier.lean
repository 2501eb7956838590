import PageRoutes.Proofs.Path.Ways
import PageRoutes.Proofs.Path.Written
import PageRoutes.RoutesModule

/-! Where the specifier of an import leads.

A specifier is read from the directory of the module. Main statement: it leads to the source of
its page, wherever the two lie and however their paths are written.
-/

set_option autoImplicit false

namespace PageRoutes.RoutesModule

theorem toList_specifier (workingDirectory : Path) (page : Page) (outputFile : Path) :
    (specifier workingDirectory page outputFile).toList =
      ['.'] ++ '/' ::
        (Path.relativeText workingDirectory page.source outputFile.parent).toList := by
  rw [specifier, String.toList_append]
  rfl

theorem namesOf_specifier (workingDirectory : Path) (page : Page) (outputFile : Path) :
    Path.namesOf (specifier workingDirectory page outputFile).toList =
      Path.relativeNames workingDirectory page.source outputFile.parent := by
  have dot : Path.namesOf ['.'] = [] := by decide
  rw [toList_specifier, Path.namesOf_append_slash, dot, List.nil_append, Path.relativeText,
    Path.namesOf_toString]

/-- The argument of an import starts with a dot and a slash, and its names, behind those of the
absolute form of the module's directory, collapse to the absolute form of the source. -/
theorem source_of_specifier (workingDirectory : Path) (page : Page) (outputFile : Path) :
    ∃ text : String,
      lazyImport workingDirectory page outputFile =
        "const " ++ page.component ++ " = lazy(() => import('" ++ text ++ "'));" ∧
      "./".toList <+: text.toList ∧
      Path.collapse ((workingDirectory.join outputFile.parent).names ++
          Path.namesOf text.toList) =
        Path.collapse (workingDirectory.join page.source).names := by
  refine ⟨specifier workingDirectory page outputFile, rfl, ?_, ?_⟩
  · rw [toList_specifier]
    exact ⟨_, rfl⟩
  · rw [namesOf_specifier]
    exact Path.collapse_relativeNames workingDirectory page.source outputFile.parent

/-- A module in a sibling of the page, with both paths written in a roundabout way. -/
example :
    specifier Path.root ⟨Path.ofString "//p/../x/a.tsx", "Page0"⟩
      (Path.ofString "x//y/router.tsx") = "./../a.tsx" := by
  decide +kernel

end PageRoutes.RoutesModule
