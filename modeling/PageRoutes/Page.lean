import PageRoutes.Path.Relative
import PageRoutes.Route.FileName
import PageRoutes.Route.Token

/-! Page files: a source path together with the identifier of its component. -/

set_option autoImplicit false

namespace PageRoutes

structure Page where
  source : Path
  component : String
  deriving DecidableEq

namespace Page

def name (page : Page) : String := page.source.fileName

def isLayout (page : Page) : Bool := Route.isLayoutFile page.name

def isIndex (page : Page) : Bool := Route.isIndexFile page.name

def rank (page : Page) : Route.Rank := Route.rank page.name

def identifier (position : Nat) : String := "Page" ++ ToString.toString position

def number (sources : List Path) : List Page :=
  sources.mapIdx fun position source => ⟨source, identifier position⟩

def directories (workingDirectory source pagesDirectory : Path) : List Name :=
  Path.relativeNames workingDirectory source.parent pagesDirectory

end Page

end PageRoutes
