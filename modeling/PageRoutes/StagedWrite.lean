import PageRoutes.FileSystem

/-! Replacing a file in one visible step.

The text goes to a hidden sibling first, which then takes the place of the file. Whoever
looks at the file sees the old content or all of the new one. When a step fails, the
sibling is taken away again.
-/

set_option autoImplicit false

namespace PageRoutes

structure WriteError where
  path : Path
  cause : FileError
  deriving DecidableEq

def WriteError.message (error : WriteError) : String :=
  "Failed to write routes module " ++ error.path.toString ++ ": " ++
    error.cause.text error.path.toString

/-- A write fails for a reason of its own, because the path has no name or cannot be handed
to the file system, or because the sibling cannot be cleared away. -/
inductive WriteFailure where
  | reported (error : WriteError)
  | unnamed (path : Path)
  | refused (error : FileError)
  deriving DecidableEq

namespace StagedWrite

def unnamedMessage (path : Path) : String :=
  "PosixPath(" ++ Text.quoted path.toString ++ ") has an empty name"

def hiddenName (name : Name) : Name where
  text := "." ++ name.text ++ ".tmp"
  nonempty := by
    intro empty
    have := congrArg (fun text : String => text.toList.length) empty
    simp at this
  not_dot := by
    intro dot
    have := congrArg (fun text : String => text.toList.length) dot
    simp at this
  no_slash := by
    have free := name.no_slash
    simp only [String.toList_append, List.mem_append, not_or]
    exact ⟨⟨by decide, free⟩, by decide⟩

def hiddenSibling (path : Path) (name : Name) : Path := path.parent.child (hiddenName name)

/-- A write: how it ended, the tree it left, and every tree on the way. -/
structure Run where
  outcome : Except WriteFailure Nat
  tree : FileTree
  passed : List FileTree

/-- What takes the sibling away again when a step has failed. -/
def clear (system : FileSystem) (tree : FileTree) (path sibling : Path) (cause : FileError)
    (passed : List FileTree) : Run :=
  match system.isPresent tree sibling with
  | .error error => ⟨.error (.refused error), tree, passed⟩
  | .ok false => ⟨.error (.reported ⟨path, cause⟩), tree, passed⟩
  | .ok true =>
    let cleared := system.unlink tree sibling
    match cleared.outcome with
    | .ok () => ⟨.error (.reported ⟨path, cause⟩), cleared.tree, passed ++ cleared.passed⟩
    | .error error => ⟨.error (.refused error), cleared.tree, passed ++ cleared.passed⟩

/-- What a failed step leads to: only a refusal of the system is reported. -/
def failOn (system : FileSystem) (tree : FileTree) (path sibling : Path) (cause : FileError)
    (passed : List FileTree) : Run :=
  if cause.isRefusal then clear system tree path sibling cause passed
  else ⟨.error (.refused cause), tree, passed⟩

/-- The three steps of a write; directories that were made stay, also when a later step fails. -/
def steps (system : FileSystem) (tree : FileTree) (path sibling : Path) (content : ByteArray) :
    FileTree.Run Unit :=
  (system.makeDirectories tree path.parent).andThen fun prepared =>
    (system.writeFile prepared sibling content).andThen fun staged =>
      system.replace staged sibling path

/-- Writes a text to a file, making the directories above it; answers the number of bytes. -/
def runOn (system : FileSystem) (tree : FileTree) (path : Path) (text : String) : Run :=
  match system.encode text, path.lastName? with
  | none, _ => ⟨.error (.refused .unencodable), tree, []⟩
  | some _, none => ⟨.error (.unnamed path), tree, []⟩
  | some content, some name =>
    let sibling := hiddenSibling path name
    let ended := steps system tree path sibling content
    match ended.outcome with
    | .error cause => failOn system ended.tree path sibling cause ended.passed
    | .ok () => ⟨.ok content.size, ended.tree, ended.passed⟩

def run (tree : FileTree) (start : Location) (path : Path) (text : String) : Run :=
  runOn (.plain start) tree path text

def fail (tree : FileTree) (start : Location) (path sibling : Path) (cause : FileError)
    (passed : List FileTree) : Run :=
  failOn (.plain start) tree path sibling cause passed

theorem fail_eq (tree : FileTree) (start : Location) (path sibling : Path) (cause : FileError)
    (passed : List FileTree) :
    fail tree start path sibling cause passed =
      if cause.isRefusal then
        match tree.isPresent start sibling with
        | .error error => ⟨.error (.refused error), tree, passed⟩
        | .ok false => ⟨.error (.reported ⟨path, cause⟩), tree, passed⟩
        | .ok true =>
          match tree.unlink start sibling with
          | .ok cleared => ⟨.error (.reported ⟨path, cause⟩), cleared, passed ++ [cleared]⟩
          | .error error => ⟨.error (.refused error), tree, passed⟩
      else ⟨.error (.refused cause), tree, passed⟩ := by
  simp only [fail, failOn, clear, FileSystem.plain]
  cases tree.unlink start sibling <;> simp [FileTree.Run.ofChange]

theorem run_eq (tree : FileTree) (start : Location) (path : Path) (text : String) :
    run tree start path text =
      match path.lastName? with
      | none => ⟨.error (.unnamed path), tree, []⟩
      | some name =>
        let content := text.toUTF8
        let sibling := hiddenSibling path name
        let prepared := tree.makeDirectories start path.parent
        match prepared.outcome with
        | .error cause => fail prepared.tree start path sibling cause prepared.passed
        | .ok () =>
          match prepared.tree.writeFile start sibling content with
          | .error cause => fail prepared.tree start path sibling cause prepared.passed
          | .ok staged =>
            let passed := prepared.passed ++ [staged]
            match staged.replace start sibling path with
            | .error cause => fail staged start path sibling cause passed
            | .ok done => ⟨.ok content.size, done, passed ++ [done]⟩ := by
  have content : (FileSystem.plain start).encode text = some text.toUTF8 := rfl
  have made : (FileSystem.plain start).makeDirectories tree path.parent =
      tree.makeDirectories start path.parent := rfl
  have wrote (tree : FileTree) (path : Path) (content : ByteArray) :
      (FileSystem.plain start).writeFile tree path content =
        .ofChange tree (tree.writeFile start path content) := rfl
  have moved (tree : FileTree) (source target : Path) :
      (FileSystem.plain start).replace tree source target =
        .ofChange tree (tree.replace start source target) := rfl
  simp only [run, runOn, content, steps, made, wrote, moved, fail]
  cases path.lastName? with
  | none => rfl
  | some name =>
    simp only [FileTree.Run.andThen]
    cases (tree.makeDirectories start path.parent).outcome with
    | error cause => rfl
    | ok _ =>
      cases (tree.makeDirectories start path.parent).tree.writeFile start (hiddenSibling path name)
        text.toUTF8 with
      | error cause => simp only [FileTree.Run.ofChange, List.append_nil]
      | ok staged =>
        simp only [FileTree.Run.ofChange]
        cases staged.replace start (hiddenSibling path name) path with
        | error cause => simp only [List.append_nil]
        | ok done => simp only [List.append_assoc]

end StagedWrite

end PageRoutes
