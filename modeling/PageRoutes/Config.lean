import PageRoutes.Path.Relative

/-! The configuration of a generation pass.

The root is absolute, and the package that routes are imported from has a name; both are
part of the type, so that a configuration in hand is a usable one.
-/

set_option autoImplicit false

namespace PageRoutes

structure Config where
  root : Path
  pagesDirectory : String
  outputFile : String
  importSource : String
  root_absolute : root.IsAbsolute
  importSource_nonempty : importSource ≠ ""

namespace Config

/-- Without a package there is no configuration. -/
def ofRoot? (root : AbsolutePath) (pagesDirectory outputFile importSource : String) :
    Option Config :=
  if named : importSource ≠ "" then
    some ⟨root.val, pagesDirectory, outputFile, importSource, root.property, named⟩
  else none

/-- The configuration where no links are on the way of a relative root, which then is made absolute
from its text alone. -/
def ofFields? (workingDirectory root : Path) (pagesDirectory outputFile importSource : String)
    (startsAtRoot : workingDirectory.IsAbsolute) : Option Config :=
  if absolute : root.IsAbsolute then
    ofRoot? ⟨root, absolute⟩ pagesDirectory outputFile importSource
  else
    ofRoot? ⟨Path.resolve workingDirectory root, Path.join_isAbsolute startsAtRoot⟩
      pagesDirectory outputFile importSource

def defaultPagesDirectory : String := "src/pages"

def defaultOutputFile : String := "src/router.tsx"

def defaultImportSource : String := "react-router-dom"

def fromRoot (config : Config) (path : String) : Path :=
  config.root.join (Path.ofString path)

def pagesPath (config : Config) : Path := config.fromRoot config.pagesDirectory

def outputPath (config : Config) : Path := config.fromRoot config.outputFile

theorem fromRoot_isAbsolute (config : Config) (path : String) :
    (config.fromRoot path).IsAbsolute :=
  Path.join_isAbsolute config.root_absolute

end Config

end PageRoutes
