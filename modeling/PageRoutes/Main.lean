import PageRoutes.CommandLine.Run
import PageRoutes.Watch.Comparison
import Std.Async.Signal

/-! The program itself: it looks at the files, lets the pure definitions work on what it saw,
and carries out what they changed.

Only the way to a path, and everything below the pages directory, is looked at. The contents
of files are read where a path ends, because no other content is ever needed.
-/

set_option autoImplicit false

namespace PageRoutes.Main

def textOf (location : Location) : String := (Path.ofLocation location).toString

def namesIn (path : String) : List Name := (Path.ofString path).names

/-- What stands at a location. A link leads to where it ends, or to itself if it ends nowhere. -/
def entryAt (here : Location) (name : Name) : IO (Option Entry) := do
  let found : IO.FS.DirEntry := ⟨textOf here, name.text⟩
  try
    match (← found.path.symlinkMetadata).type with
    | .dir => return some .directory
    | .symlink =>
      let target ← try pure (← IO.FS.realPath found.path).toString catch _ => pure name.text
      return some (.link (LinkTarget.ofString target))
    | _ => return some (.file .empty)
  catch _ => return none

partial def lookBelow (here : Location) (tree : FileTree) : IO FileTree := do
  let directory : IO.FS.DirEntry := ⟨textOf here, "."⟩
  let listed ← try some <$> directory.path.readDir catch _ => pure none
  match listed with
  | none => return { tree with unlistable := here :: tree.unlistable }
  | some entries =>
    let mut seen := tree
    for entry in entries do
      for name in namesIn entry.fileName do
        match ← entryAt here name with
        | none => pure ()
        | some found =>
          seen := seen.place (here ++ [name]) found
          if found.isDirectory && !Discovery.skippedDirectories.contains name.text then
            seen ← lookBelow (here ++ [name]) seen
    return seen

/-- Records the way to a path, the content of the file at its end, and on request everything
below the directory at its end. -/
partial def lookAlong (below : Bool) (here : Location) (way : List Name) (tree : FileTree) :
    IO FileTree := do
  match way with
  | [] => if below then lookBelow here tree else return tree
  | name :: rest =>
    if name = Name.up then lookAlong below here.dropLast rest tree
    else
      match ← entryAt here name with
      | none => return tree
      | some (.link target) =>
        let seen := tree.place (here ++ [name]) (.link target)
        -- The target is free of links, so only its own way is left to record.
        if target.path.IsAbsolute then lookAlong below [] (target.path.names ++ rest) seen
        else return seen
      | some .directory =>
        lookAlong below (here ++ [name]) rest (tree.place (here ++ [name]) .directory)
      | some (.file _) =>
        let content ← try IO.FS.readBinFile (textOf (here ++ [name])) catch _ => pure .empty
        return tree.place (here ++ [name]) (.file content)

def look (below : Bool) (start : Location) (path : Path) (tree : FileTree) : IO FileTree :=
  lookAlong below [] (((Path.ofLocation start).join path).names) tree

def configFiles (start : Location) (root : Path) : IO FileTree := do
  let mut tree ← look false start (Path.ofLocation start) FileTree.empty
  for (name, _) in Config.fileNames do
    tree ← look false start (root.join (Path.ofString name)) tree
  return tree

def passFiles (start : Location) (config : Config) (tree : FileTree) : IO FileTree := do
  look false start config.outputPath (← look true start config.pagesPath tree)

/-- Writes what a run added to the files, each file in one visible step. -/
def carryOut (before after : FileTree) : IO Unit := do
  for (location, entry) in after.entries do
    if before.get? location ≠ some entry then
      match entry, location.getLast? with
      | .directory, _ => IO.FS.createDir (textOf location)
      | .file content, some name =>
        let sibling := textOf (location.dropLast ++ [StagedWrite.hiddenName name])
        IO.FS.writeBinFile sibling content
        IO.FS.rename sibling (textOf location)
      | _, _ => pure ()

def environmentTerminal : IO Banner.Terminal := do
  return ⟨← IO.getEnv "NO_COLOR", ← IO.getEnv "TERM", ← (← IO.getStderr).isTty⟩

def printed (workspace : Workspace) : IO Workspace := do
  IO.eprint workspace.printed
  return { workspace with printed := "" }

def finish (ended : CommandLine.Ended) : IO UInt32 := do
  IO.print ended.output
  discard <| printed ended.session.workspace
  match ended.outcome with
  | .ok code => return UInt32.ofNat code
  | .error _ => throw (IO.userError "the project directory cannot be used")

/-- Looks again and again until the interrupt, with one pass for each round of page changes. -/
partial def watchFiles {α : Type} (surroundings : Surroundings) (config : Config)
    (interrupt : Task α) (session : Session) : IO Session := do
  IO.sleep (UInt32.ofNat Session.standardDebounce.toNat)
  if ← IO.hasFinished interrupt then return session
  let known := session.workspace.files
  let current ← passFiles surroundings.start config
    (← look false surroundings.start (Path.ofLocation surroundings.start) FileTree.empty)
  -- The files were changed from outside already, so the batch has no edits of its own.
  let batch : Batch := ⟨[], RawChange.between config known current, [], false, false, none⟩
  let (_, next) := Session.follow surroundings.start config
    (Generation.consume surroundings config) [batch]
    { session with workspace := { session.workspace with files := current } }
  carryOut current next.workspace.files
  watchFiles surroundings config interrupt { next with workspace := ← printed next.workspace }

def runWatch (surroundings : Surroundings) (config : Config) (workspace : Workspace) :
    IO CommandLine.Ended := do
  match Generation.first surroundings config workspace with
  | (.error failure, after) =>
    return .ofSession (some (.pass failure)) (Session.ofWorkspace after false)
  | (.ok _, after) =>
    carryOut workspace.files after.files
    let interrupt ← (← Std.Async.Signal.Waiter.mk .sigint false).wait
    let session ← watchFiles surroundings config interrupt
      (Session.ofWorkspace (← printed after) false)
    return .ofSession none { session with workspace := Generation.close session.workspace }

def runGenerate (surroundings : Surroundings) (request : CommandLine.Request)
    (workspace : Workspace) : IO CommandLine.Ended := do
  let ended := request.perform surroundings [] workspace
  carryOut workspace.files ended.session.workspace.files
  return ended

def run (request : CommandLine.Request) (workspace : Workspace) : IO CommandLine.Ended := do
  let start := namesIn (← IO.currentDir).toString
  let begun ← IO.monoNanosNow
  let files ← configFiles start request.settings.rootPath
  match request.settings.load files start with
  | .error failure =>
    return .ofSession (some (.load failure)) (Session.ofWorkspace workspace false)
  | .ok config =>
    let seen := { workspace with files := ← passFiles start config files }
    let elapsed := Duration.ofMicroseconds
      (Number.Real.ofInt ((((← IO.monoNanosNow) - begun) / 1000 : Nat) : Int))
    let surroundings : Surroundings := ⟨start, elapsed, ← environmentTerminal⟩
    match request.command with
    | .generate => runGenerate surroundings request seen
    | .watch => runWatch surroundings config { seen with log := some EventLog.standard }

end PageRoutes.Main

open PageRoutes in
def main (arguments : List String) : IO UInt32 := do
  let workspace : Workspace := ⟨FileTree.empty, 0, none, ""⟩
  match CommandLine.Request.ofArguments arguments with
  | .error notice => Main.finish (.ofNotice notice workspace)
  | .ok request => Main.finish (← Main.run request workspace)
