import PageRoutes.Config
import PageRoutes.Declaration.OfTree

/-! The text of the generated routes module.

The module imports every listed file lazily, layouts included, in the order of the list,
and renders the declarations of the route tree below a fallback for what is still loading.
-/

set_option autoImplicit false

namespace PageRoutes.RoutesModule

def header : String :=
  "// ATTENTION: This file is automatically generated by burrow.\n// Do not edit manually."

def frameworkImports (importSource : String) : String :=
  "import \x7b lazy, Suspense \x7d from 'react';\nimport \x7b Routes, Route, Outlet \x7d from '" ++
    importSource ++ "';"

/-- The way from the directory of the module to the source of a page. -/
def specifier (workingDirectory : Path) (page : Page) (outputFile : Path) : String :=
  "./" ++ Path.relativeText workingDirectory page.source outputFile.parent

def lazyImport (workingDirectory : Path) (page : Page) (outputFile : Path) : String :=
  "const " ++ page.component ++ " = lazy(() => import('" ++
    specifier workingDirectory page outputFile ++ "'));"

def routesIndent : Nat := 6

/-- Puts the parts of the module together; parts without text leave no line behind. -/
def assemble (workingDirectory : Path) (files : List Page) (routes : List String)
    (outputFile : Path) (importSource : String) : String :=
  let imports :=
    "\n".intercalate (files.map fun page => lazyImport workingDirectory page outputFile)
  let body := Text.indent routesIndent ("\n".intercalate routes)
  "\n".intercalate
    ([header, frameworkImports importSource, ""] ++
      (if imports.isEmpty then [] else [imports, ""]) ++
      ["const LoadingComponent = () => null;",
        "",
        "export const AppRoutes = () => (",
        "  <Suspense fallback=\x7b<LoadingComponent />\x7d>",
        "    <Routes>"] ++
      (if body.isEmpty then [] else [body]) ++
      ["    </Routes>", "  </Suspense>", ");"]) ++ "\n"

def render (workingDirectory : Path) (sources : List Path) (config : Config) : String :=
  let tree := RouteTree.ofFiles workingDirectory config.pagesPath sources
  assemble workingDirectory tree.files ((Declaration.ofRoot tree.root).map Declaration.render)
    config.outputPath config.importSource

end PageRoutes.RoutesModule
