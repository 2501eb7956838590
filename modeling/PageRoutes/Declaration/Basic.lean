import PageRoutes.Declaration.Line
import PageRoutes.Text.Lines

/-! Route declarations and their written form.

A declaration is a page of its own, or a group that encloses others, with or without
a layout component. Enclosed declarations are written two spaces further in.
-/

set_option autoImplicit false

namespace PageRoutes

inductive Declaration where
  /-- A page at the path of the group around it. -/
  | index (component : String)
  /-- A page at a path of its own. -/
  | page (path component : String)
  /-- Declarations below a path, rendered inside a layout if there is one. -/
  | group (path : String) (layout : Option String) (inner : List Declaration)

namespace Declaration

def indentWidth : Nat := 2

mutual

def render : Declaration → String
  | .index component => (Line.index component).write
  | .page path component => (Line.page path component).write
  | .group path layout inner =>
    "\n".intercalate ((Line.opening path layout).write :: renderInner inner ++ [Line.closing.write])

/-- The enclosed declarations, each written further in on its own. -/
def renderInner : List Declaration → List String
  | [] => []
  | first :: rest => Text.indent indentWidth first.render :: renderInner rest

end

end Declaration

end PageRoutes
