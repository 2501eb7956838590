import PageRoutes.Discovery.Walk
import PageRoutes.FileTree.Change

/-! The calls that a pass makes on the system.

A system answers each call as it likes: it may refuse it for any cause, and a change that it
refuses may have changed the files nevertheless. A plain system is one in which the tree alone
decides: nothing is forbidden and nothing runs out, and every text has its bytes.
-/

set_option autoImplicit false

namespace PageRoutes

structure FileSystem where
  isDirectory : FileTree → Path → Except FileError Bool
  isPresent : FileTree → Path → Except FileError Bool
  walk : FileTree → Path → Except (String × FileError) (List Location)
  makeDirectories : FileTree → Path → FileTree.Run Unit
  writeFile : FileTree → Path → ByteArray → FileTree.Run Unit
  replace : FileTree → Path → Path → FileTree.Run Unit
  unlink : FileTree → Path → FileTree.Run Unit
  /-- The bytes of a text, if all its characters have some. -/
  encode : String → Option ByteArray

def FileSystem.plain (start : Location) : FileSystem where
  isDirectory tree path := tree.isDirectory start path
  isPresent tree path := tree.isPresent start path
  walk tree path := Discovery.walk tree start path
  makeDirectories tree path := tree.makeDirectories start path
  writeFile tree path content := .ofChange tree (tree.writeFile start path content)
  replace tree source target := .ofChange tree (tree.replace start source target)
  unlink tree path := .ofChange tree (tree.unlink start path)
  encode text := some text.toUTF8

end PageRoutes
