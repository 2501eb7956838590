/-! What the name of a file says about its place in the routes.

The rank orders sibling routes: an index comes before a literal name, a literal name
before one with a parameter, and a catch-all comes last.
-/

set_option autoImplicit false

namespace PageRoutes.Route

inductive Rank where
  | index
  | literal
  | dynamic
  | catchAll
  deriving DecidableEq

namespace Rank

def level : Rank → Nat
  | .index => 0
  | .literal => 1
  | .dynamic => 2
  | .catchAll => 3

def worse (first second : Rank) : Rank :=
  if first.level < second.level then second else first

theorem level_injective {first second : Rank} (same : first.level = second.level) :
    first = second := by
  cases first <;> cases second <;> first | rfl | cases same

@[simp] theorem level_worse (first second : Rank) :
    (worse first second).level = Nat.max first.level second.level := by
  cases first <;> cases second <;> rfl

end Rank

def occurs (run : List Char) : List Char → Bool
  | [] => run.isEmpty
  | c :: rest => run.isPrefixOf (c :: rest) || occurs run rest

def startsWith (opening : String) (name : String) : Bool :=
  opening.toList.isPrefixOf name.toList

/-- The rank of a file or directory name, read off the name as it is written. -/
def rank (name : String) : Rank :=
  if occurs "[...".toList name.toList then .catchAll
  else if name.toList.contains '[' then .dynamic
  else if startsWith "index." name then .index
  else .literal

/-- An index file is rendered at the path of its directory. -/
def isIndexFile (name : String) : Bool := startsWith "index." name

/-- A layout file wraps everything in its directory and is no route itself. -/
def isLayoutFile (name : String) : Bool := startsWith "layout." name

def pageExtensions : List String := [".tsx", ".jsx"]

def isPageFile (name : String) : Bool :=
  pageExtensions.any fun extension => extension.toList.isSuffixOf name.toList

end PageRoutes.Route
