import PageRoutes.Banner
import PageRoutes.Discovery
import PageRoutes.RoutesModule
import PageRoutes.StagedWrite

/-! A generation pass: discover the pages, render the module, write it.

A pass that fails to discover or to write leaves the old module in place. Where there is a
log, every pass adds one event to it, unless it fails for a reason that is not its own.
-/

set_option autoImplicit false

namespace PageRoutes

/-- What a pass works on: the files, the clock of events, a log if there is one, and the
lines printed so far. -/
structure Workspace where
  files : FileTree
  clock : Nat
  log : Option EventLog
  printed : String

namespace Workspace

def say (workspace : Workspace) (line : String) : Workspace :=
  { workspace with printed := workspace.printed ++ line ++ "\n" }

/-- Appends the event of the next tick to the log; without a log no time passes. -/
def record (workspace : Workspace) (event : Nat → Event) : Workspace :=
  match workspace.log with
  | none => workspace
  | some log =>
    { workspace with
      clock := workspace.clock + 1
      log := some (log.append (event (workspace.clock + 1))) }

end Workspace

/-- What stays the same during a run: the working directory, how long every pass takes, and
what the lines are printed on. -/
structure Surroundings where
  start : Location
  elapsed : Duration
  terminal : Banner.Terminal

def Surroundings.workingDirectory (surroundings : Surroundings) : Path :=
  Path.ofLocation surroundings.start

structure PassResult where
  outputPath : Path
  fileCount : Nat
  byteCount : Nat
  duration : Duration
  text : String

inductive PassFailure where
  | discovery (failure : DiscoveryFailure)
  | write (failure : WriteFailure)
  deriving DecidableEq

/-- The stage and the message of a failure that a pass reports as its own. -/
def PassFailure.report? : PassFailure → Option (Stage × String)
  | .discovery (.reported error) => some (.discover, error.message)
  | .write (.reported error) => some (.write, error.message)
  | _ => none

namespace Generation

def abort (config : Config) (failure : PassFailure) (workspace : Workspace) :
    Except PassFailure PassResult × Workspace :=
  match failure.report? with
  | some (stage, message) =>
    (.error failure, workspace.record fun time =>
      .generationFailed config.pagesPath.toString stage message time)
  | none => (.error failure, workspace)

def doneLine (fileCount : Nat) (outputPath : Path) (elapsed : Duration) : String :=
  "  Routes generated: " ++ EventLog.counted fileCount "file" "s" ++ " -> " ++
    outputPath.toString ++ " (" ++ elapsed.wholeMilliseconds ++ "ms)"

def passOn (system : FileSystem) (surroundings : Surroundings) (config : Config) (quiet : Bool)
    (workspace : Workspace) : Except PassFailure PassResult × Workspace :=
  let begun := if quiet then workspace else workspace.say "  Generating routes..."
  match Discovery.pagesOn system begun.files surroundings.start config.pagesPath with
  | .error failure => abort config (.discovery failure) begun
  | .ok sources =>
    let text := RoutesModule.render surroundings.workingDirectory sources config
    -- A write that fails may have changed the files as well.
    let write := StagedWrite.runOn system begun.files config.outputPath text
    let written := { begun with files := write.tree }
    match write.outcome with
    | .error failure => abort config (.write failure) written
    | .ok byteCount =>
      let recorded := written.record fun time =>
        .routesGenerated config.pagesPath.toString config.outputPath.toString sources.length
          byteCount surroundings.elapsed time
      (.ok ⟨config.outputPath, sources.length, byteCount, surroundings.elapsed, text⟩,
        if quiet then recorded
        else recorded.say (doneLine sources.length config.outputPath surroundings.elapsed))

def pass (surroundings : Surroundings) (config : Config) (quiet : Bool) (workspace : Workspace) :
    Except PassFailure PassResult × Workspace :=
  passOn (.plain surroundings.start) surroundings config quiet workspace

end Generation

end PageRoutes
