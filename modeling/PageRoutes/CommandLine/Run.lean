import PageRoutes.CommandLine.Request
import PageRoutes.Config.Load
import PageRoutes.Watch.Session

/-! A run of the program, from its arguments to its exit code.

Help and the version go to the standard output, everything else is printed as a session
prints. A failure of the program's own becomes a line and an exit code; any other is handed on.
-/

set_option autoImplicit false

namespace PageRoutes.CommandLine

open Document

inductive Failure where
  | load (failure : LoadFailure)
  | pass (failure : PassFailure)

def Failure.message? : Failure → Option String
  | .load (.config error) => some error.message
  | .load _ => none
  | .pass failure => failure.report?.map Prod.snd

/-- What a run leaves: its exit code or a failure that is not its own, what it wrote to the
standard output, and the session. -/
structure Ended where
  outcome : Except Failure Nat
  output : String
  session : Session

def refusedCode : Nat := 2

def failedCode : Nat := 1

def defaultRoot : String := "."

def Settings.rootPath (settings : Settings) : Path :=
  Path.ofString (settings.root.getD defaultRoot)

/-- A list of no values stands for what a switch did not give. -/
def Given.value : Given → Value
  | .text value => .text value
  | .nothing => .list []

/-- A setting without a switch counts as not given. -/
def Settings.overrides (settings : Settings) : Entries :=
  let entry (key : String) (given : Option Given) : Value × Value :=
    (.text key, (given.map Given.value).getD .null)
  [entry Config.pagesDirectoryKey settings.pagesDirectory,
    entry Config.outputFileKey settings.outputFile,
    entry Config.importSourceKey settings.importSource]

def Settings.load (settings : Settings) (files : FileTree) (start : Location)
    (readers : Readers := .own) : Except LoadFailure Config :=
  Config.load files start settings.rootPath settings.overrides readers

def Ended.ofNotice (notice : Notice) (workspace : Workspace) : Ended :=
  match notice with
  | .help scope => ⟨.ok 0, scope.help, Session.ofWorkspace workspace false⟩
  | .version => ⟨.ok 0, versionText, Session.ofWorkspace workspace false⟩
  | .refused scope fault =>
    let refused := { workspace with printed := workspace.printed ++ scope.refusal fault }
    ⟨.ok refusedCode, "", Session.ofWorkspace refused false⟩

def Ended.ofSession (failure : Option Failure) (session : Session) : Ended :=
  match failure with
  | none => ⟨.ok 0, "", session⟩
  | some failure =>
    match failure.message? with
    | some message =>
      ⟨.ok failedCode, "",
        { session with workspace := session.workspace.say ("  Error: " ++ message) }⟩
    | none => ⟨.error failure, "", session⟩

def Request.perform (surroundings : Surroundings) (script : List Batch) (request : Request)
    (workspace : Workspace) (readers : Readers := .own) : Ended :=
  match request.settings.load workspace.files surroundings.start readers with
  | .error failure => Ended.ofSession (some (.load failure)) (Session.ofWorkspace workspace false)
  | .ok config =>
    match request.command with
    | .generate =>
      match Generation.once surroundings config workspace with
      | (.ok _, after) => Ended.ofSession none (Session.ofWorkspace after false)
      | (.error failure, after) =>
        Ended.ofSession (some (.pass failure)) (Session.ofWorkspace after false)
    | .watch =>
      let (failure, session) := Generation.watch surroundings config script
        { workspace with log := some EventLog.standard }
      Ended.ofSession (failure.map Failure.pass) session

def run (surroundings : Surroundings) (script : List Batch) (arguments : List String)
    (workspace : Workspace) (readers : Readers := .own) : Ended :=
  match Request.ofArguments arguments with
  | .error notice => Ended.ofNotice notice workspace
  | .ok request => request.perform surroundings script workspace readers

end PageRoutes.CommandLine
