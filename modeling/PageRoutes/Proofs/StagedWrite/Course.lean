import PageRoutes.Proofs.FileTree.MadeWay
import PageRoutes.Proofs.FileTree.Refusals
import PageRoutes.Proofs.StagedWrite

/-! The course of a staged write.

A write ends without a name, at one of its three steps, or after all of them. What ends it decides
the outcome, and the clearing away of the sibling comes after a step that failed.
-/

set_option autoImplicit false

namespace PageRoutes

namespace StagedWrite

open FileTree

theorem hasNul_hiddenSibling {path : Path} {name : Name} (named : path.lastName? = some name) :
    hasNul (hiddenSibling path name) = hasNul path := by
  have hidden : (hiddenName name).text.toList.contains '\x00' =
      name.text.toList.contains '\x00' := by
    simp [hiddenName, String.toList_append]
  rw [hiddenSibling, hasNul_child, hidden, ← hasNul_child, parent_child_of_named named]

/-- How a write may go, step by step. -/
inductive Course (tree : FileTree) (start : Location) (path : Path) (text : String) : Run → Prop where
  | unnamed : path.lastName? = none → Course tree start path text ⟨.error (.unnamed path), tree, []⟩
  | unprepared {name : Name} {cause : FileError} : path.lastName? = some name →
      (tree.makeDirectories start path.parent).outcome = .error cause →
      Course tree start path text
        (fail (tree.makeDirectories start path.parent).tree start path (hiddenSibling path name)
          cause (tree.makeDirectories start path.parent).passed)
  | unstaged {name : Name} {cause : FileError} : path.lastName? = some name →
      (tree.makeDirectories start path.parent).outcome = .ok () →
      (tree.makeDirectories start path.parent).tree.writeFile start (hiddenSibling path name)
        text.toUTF8 = .error cause →
      Course tree start path text
        (fail (tree.makeDirectories start path.parent).tree start path (hiddenSibling path name)
          cause (tree.makeDirectories start path.parent).passed)
  | unplaced {name : Name} {cause : FileError} {staged : FileTree} : path.lastName? = some name →
      (tree.makeDirectories start path.parent).outcome = .ok () →
      (tree.makeDirectories start path.parent).tree.writeFile start (hiddenSibling path name)
        text.toUTF8 = .ok staged →
      staged.replace start (hiddenSibling path name) path = .error cause →
      Course tree start path text
        (fail staged start path (hiddenSibling path name) cause
          ((tree.makeDirectories start path.parent).passed ++ [staged]))
  | placed {name : Name} {staged done : FileTree} : path.lastName? = some name →
      (tree.makeDirectories start path.parent).outcome = .ok () →
      (tree.makeDirectories start path.parent).tree.writeFile start (hiddenSibling path name)
        text.toUTF8 = .ok staged →
      staged.replace start (hiddenSibling path name) path = .ok done →
      Course tree start path text
        ⟨.ok text.toUTF8.size, done,
          (tree.makeDirectories start path.parent).passed ++ [staged] ++ [done]⟩

theorem course_run (tree : FileTree) (start : Location) (path : Path) (text : String) :
    Course tree start path text (run tree start path text) := by
  rw [run_eq]
  split
  · rename_i unnamed
    exact .unnamed unnamed
  · rename_i name named
    simp only
    split
    · rename_i cause failed
      exact .unprepared named failed
    · rename_i made
      split
      · rename_i cause failed
        exact .unstaged named made failed
      · rename_i staged wrote
        split
        · rename_i cause failed
          exact .unplaced named made wrote failed
        · rename_i done moved
          exact .placed named made wrote moved

variable {tree : FileTree} {start : Location} {path sibling : Path} {name : Name}
  {cause : FileError} {passed : List FileTree}

theorem isRefusal_of_replace {goal : Target} (named : path.lastName? = some name)
    (located : tree.locate start false (hiddenSibling path name) = .ok goal)
    (failed : tree.replace start (hiddenSibling path name) path = .error cause) :
    cause.isRefusal = true := by
  have clean : hasNul path = false := by
    rw [← hasNul_hiddenSibling named]
    exact (locate_eq_ok_iff.1 located).1
  unfold replace at failed
  split at failed
  · cases failed
    rfl
  · rw [located] at failed
    split at failed
    · rename_i refused
      cases refused
    · rename_i error refused _
      cases failed
      rw [isRefusal_of_locate refused, clean]
      rfl
    · cases failed
      rfl
    · split at failed
      · split at failed
        · cases failed
          rfl
        · cases failed
      · cases failed
        rfl
      · rename_i goal error _ refused _
        cases failed
        unfold replaceable at refused
        split at refused
        · cases refused
        · split at refused
          · cases refused
            rfl
          · cases refused

theorem fail_of_file {location : Location} {content : ByteArray} (refusal : cause.isRefusal = true)
    (followed : tree.locate start true sibling = .ok (.found location))
    (located : tree.locate start false sibling = .ok (.found location))
    (stands : tree.get? location = some (.file content)) :
    fail tree start path sibling cause passed =
      ⟨.error (.reported ⟨path, cause⟩), tree.erase location, passed ++ [tree.erase location]⟩ := by
  have present : tree.isPresent start sibling = .ok true := by
    simp [isPresent, probe, followed, stands, Except.map]
  have unlinked : tree.unlink start sibling = .ok (tree.erase location) := by
    rw [unlink, located]
    simp only [stands]
  rw [fail_eq, if_pos refusal, present]
  simp only [unlinked]

theorem fail_of_no_file (path : Path) (cause : FileError) (passed : List FileTree)
    (standing : ∀ location, tree.locate start false sibling = .ok (.found location) →
      tree.get? location = some .directory) :
    (fail tree start path sibling cause passed).tree = tree ∧
      (fail tree start path sibling cause passed).passed = passed := by
  rw [fail_eq]
  split
  · split
    · exact ⟨rfl, rfl⟩
    · exact ⟨rfl, rfl⟩
    · split
      · rename_i cleared unlinked
        unfold unlink at unlinked
        split at unlinked
        · cases unlinked
        · cases unlinked
        · rename_i location located
          simp only [standing location located] at unlinked
          cases unlinked
      · exact ⟨rfl, rfl⟩
  · exact ⟨rfl, rfl⟩

end StagedWrite

end PageRoutes
