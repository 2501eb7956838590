import PageRoutes.FileTree.Locate
import PageRoutes.Watch.Change

/-! Raw changes found by comparing two looks at the files. -/

set_option autoImplicit false

namespace PageRoutes.RawChange

def contents (config : Config) (tree : FileTree) : List (Location × Entry) :=
  match tree.probe [] config.pagesPath with
  | .ok (some (base, .directory)) => tree.below base
  | _ => []

/-- What has come, what has gone, and what is another entry now. -/
def between (config : Config) (earlier later : FileTree) : List (RawChange × String) :=
  let old := contents config earlier
  let new := contents config later
  let named (change : RawChange) (way : Location) : RawChange × String :=
    (change, (config.pagesPath.join ⟨.relative, way⟩).toString)
  let gone := old.filterMap fun (way, _) =>
    if (new.lookup way).isNone then some (named .deleted way) else none
  let here := new.filterMap fun (way, entry) =>
    match old.lookup way with
    | none => some (named .added way)
    | some before => if before = entry then none else some (named .modified way)
  gone ++ here

end PageRoutes.RawChange
