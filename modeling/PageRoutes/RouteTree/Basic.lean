import PageRoutes.Page

/-! The route tree: one node for each directory of pages.

A node holds at most one layout, its pages in the order in which their sources were
first attached, and its children in the order in which they were created. Sources
within a node and tokens of its children occur once.
-/

set_option autoImplicit false

namespace PageRoutes

structure RouteNode where
  token : String
  layout : Option Page
  pages : List Page
  children : List RouteNode

/-- Replaces the page with the same source where it stands, else adds the page at the end. -/
def placePage (page : Page) : List Page → List Page
  | [] => [page]
  | other :: rest =>
    if other.source = page.source then page :: rest else other :: placePage page rest

namespace RouteNode

def empty (token : String) : RouteNode := ⟨token, none, [], []⟩

def rootToken : String := "/"

/-- A layout takes the place of the layout before it; any other file joins the pages. -/
def attach (node : RouteNode) (page : Page) : RouteNode :=
  if page.isLayout then { node with layout := some page }
  else { node with pages := placePage page node.pages }

def child? (node : RouteNode) (token : String) : Option RouteNode :=
  node.children.find? fun child => child.token = token

/-- Changes the child with this token where it stands; a missing one is created at the end. -/
def changeChild (token : String) (change : RouteNode → RouteNode) : List RouteNode → List RouteNode
  | [] => [change (empty token)]
  | child :: rest =>
    if child.token = token then change child :: rest else child :: changeChild token change rest

/-- Changes the node at the end of a way down, creating what is missing on the way. -/
def changeAt (change : RouteNode → RouteNode) : List String → RouteNode → RouteNode
  | [], node => change node
  | token :: rest, node =>
    { node with children := changeChild token (changeAt change rest) node.children }

def withChild (node : RouteNode) (token : String) : RouteNode :=
  changeAt id [token] node

def get? (node : RouteNode) : List String → Option RouteNode
  | [] => some node
  | token :: rest => (node.child? token).bind fun child => child.get? rest

mutual

/-- The node and all below it, parents first and siblings in order. -/
def walk : RouteNode → List RouteNode
  | ⟨token, layout, pages, children⟩ => ⟨token, layout, pages, children⟩ :: walkAll children

def walkAll : List RouteNode → List RouteNode
  | [] => []
  | child :: rest => child.walk ++ walkAll rest

end

end RouteNode

/-- The tree of a list of files, and the files with their identifiers in list order. -/
structure RouteTree where
  root : RouteNode
  files : List Page

namespace RouteTree

def tokensOf (workingDirectory pagesDirectory : Path) (page : Page) : List String :=
  (Page.directories workingDirectory page.source pagesDirectory).map fun name =>
    Route.token name.text

def insert (workingDirectory pagesDirectory : Path) (root : RouteNode) (page : Page) : RouteNode :=
  root.changeAt (·.attach page) (tokensOf workingDirectory pagesDirectory page)

def ofFiles (workingDirectory pagesDirectory : Path) (sources : List Path) : RouteTree :=
  let files := Page.number sources
  let start := RouteNode.empty RouteNode.rootToken
  ⟨files.foldl (insert workingDirectory pagesDirectory) start, files⟩

end RouteTree

end PageRoutes
