import PageRoutes.Generation
import PageRoutes.Watch.Change

/-! A watch session: a first pass, then one pass for each batch of page changes.

A session follows a script of batches. Each batch edits the files and reports raw changes;
a batch without page changes is passed over. A stop lets the current batch come out and
ends the session before the next. An interrupt ends it at once, while the batch is awaited or
between two steps of its handling. Later passes that fail for reasons of their own are reported,
and the session goes on.
-/

set_option autoImplicit false

namespace PageRoutes

structure Batch where
  edits : List Edit
  changes : List (RawChange × String)
  /-- Files to look at when the next batch is asked for. -/
  shown : List String
  stop : Bool
  /-- An interrupt before the batch comes out. -/
  interrupt : Bool
  /-- An interrupt behind so many steps of its handling. -/
  cut : Option Nat := none

inductive Observation where
  | watching (pagesPath : Path) (debounce step : Int)
  | contents (files : List (String × Option String))
  | stopped

structure Session where
  workspace : Workspace
  stopped : Bool
  /-- The batches of page changes that came out, in order. -/
  delivered : List (List PageChange)
  observed : List Observation

inductive Ending where
  | finished
  | interrupted
  | failed (failure : PassFailure)

namespace Session

def ofWorkspace (workspace : Workspace) (stopped : Bool) : Session := ⟨workspace, stopped, [], []⟩

def observe (session : Session) (observation : Observation) : Session :=
  { session with observed := session.observed ++ [observation] }

def textAt (files : FileTree) (start : Location) (path : String) : Option String :=
  (files.content start (Path.ofString path)).toOption.bind String.fromUTF8?

def look (start : Location) (batch : Batch) (session : Session) : Session :=
  session.observe (.contents (batch.shown.map fun path =>
    (path, textAt session.workspace.files start path)))

def editFiles (start : Location) (batch : Batch) (session : Session) : Session :=
  { session with workspace := { session.workspace with
    files := batch.edits.foldl (fun files edit => files.edit start edit) session.workspace.files } }

/-- What becomes of a session when it is handed page changes, with the interrupt if there is one:
it ends, or it goes on. -/
abbrev Consumer := Option Nat → List PageChange → Session → Option Ending × Session

/-- Hands page changes over to what consumes them; no changes are not handed over. -/
def deliver (consume : Consumer) (cut : Option Nat) (changes : List PageChange)
    (session : Session) : Option Ending × Session :=
  if changes = [] then (none, session)
  else consume cut changes { session with delivered := session.delivered ++ [changes] }

/-- Runs a script to its end, to a stop, to an interrupt, or until the consumer ends it. -/
def follow (start : Location) (config : Config) (consume : Consumer) :
    List Batch → Session → Ending × Session
  | [], session => (.finished, session)
  | batch :: rest, session =>
    if session.stopped then (.finished, session.observe .stopped)
    else
      let edited := editFiles start batch session
      -- The edits of an interrupted batch are done, but nothing comes out of it.
      if batch.interrupt then (.interrupted, edited)
      else
        let marked := { edited with stopped := batch.stop }
        match deliver consume batch.cut (PageChange.relevant config batch.changes) marked with
        | (some ending, ended) => (ending, ended)
        | (none, consumed) => follow start config consume rest (look start batch consumed)

/-- How long changes are collected, in milliseconds. -/
def standardDebounce : Int := 300

/-- How long nothing may change until a batch is complete, in milliseconds. -/
def standardStep : Int := 100

def run (start : Location) (config : Config) (debounce : Int) (consume : Consumer)
    (script : List Batch) (session : Session) : Ending × Session :=
  follow start config consume script
    (session.observe (.watching config.pagesPath debounce standardStep))

/-- Only collects what comes out; stops once so many batches have come out. -/
def collect (stopAfter : Option Nat) : Consumer := fun _ _ session =>
  (none, if stopAfter = some session.delivered.length then { session with stopped := true }
    else session)

end Session

namespace Generation

/-- The event of a batch: its first path, and how many paths were created and how many not. -/
def changedEvent (changes : List PageChange) (time : Nat) : Event :=
  let created := changes.countP fun change => change.kind = .created
  .pagesChanged ((changes.head?.map fun change => change.path.toString).getD "")
    created (changes.length - created) time

def changeLine (change : PageChange) : String :=
  "  " ++ change.kind.label ++ ": " ++ change.path.toString

/-- Handles one batch. A failure of the pass's own is printed and leaves no result; any other
failure is handed on. -/
def regenerateOn (system : FileSystem) (surroundings : Surroundings) (config : Config)
    (changes : List PageChange) (workspace : Workspace) :
    Except PassFailure (Option PassResult) × Workspace :=
  -- The event of the batch is older than the event of its pass.
  let recorded := workspace.record (changedEvent changes)
  let announced :=
    changes.foldl (fun workspace change => workspace.say (changeLine change)) recorded
  match passOn system surroundings config false announced with
  | (.ok result, done) => (.ok (some result), done)
  | (.error failure, done) =>
    match failure.report? with
    | some (_, message) => (.ok none, done.say ("  Generation error: " ++ message))
    | none => (.error failure, done)

def regenerate (surroundings : Surroundings) (config : Config) (changes : List PageChange)
    (workspace : Workspace) : Except PassFailure (Option PassResult) × Workspace :=
  regenerateOn (.plain surroundings.start) surroundings config changes workspace

/-- The files after each change that the write of a pass makes. -/
def writing (surroundings : Surroundings) (config : Config) (files : FileTree) : List FileTree :=
  match Discovery.pages files surroundings.start config.pagesPath with
  | .error _ => []
  | .ok sources =>
    (StagedWrite.run files surroundings.start config.outputPath
      (RoutesModule.render surroundings.workingDirectory sources config)).passed

/-- The workspaces in the course of handling a batch, from the one before it to the one behind it:
one for each event, each printed line, and each change of the files. -/
def instants (surroundings : Surroundings) (config : Config) (changes : List PageChange)
    (workspace : Workspace) : List Workspace :=
  let announced (count : Nat) :=
    (changes.take count).foldl (fun workspace change => workspace.say (changeLine change))
      (workspace.record (changedEvent changes))
  let begun := (announced changes.length).say "  Generating routes..."
  let passed := (pass surroundings config false (announced changes.length)).2
  workspace :: (List.range (changes.length + 1)).map announced ++
    begun :: (writing surroundings config begun.files).map (fun files => { begun with files }) ++
    [{ passed with printed := begun.printed }, passed,
      (regenerate surroundings config changes workspace).2]

/-- Handles one batch. An interrupt leaves the workspace as it is at that instant, and a failure
that is handed on ends the session as well. -/
def consume (surroundings : Surroundings) (config : Config) : Session.Consumer :=
  fun cut changes session =>
    let (outcome, after) := regenerate surroundings config changes session.workspace
    match cut with
    | some steps =>
      (some .interrupted, { session with
        workspace := (instants surroundings config changes session.workspace).getD steps after })
    | none =>
      let ending :=
        match outcome with
        | .ok _ => none
        | .error failure => some (.failed failure)
      (ending, { session with workspace := after })

def once (surroundings : Surroundings) (config : Config) (workspace : Workspace) :
    Except PassFailure PassResult × Workspace :=
  pass surroundings config false
    { workspace with
      log := none
      printed := workspace.printed ++ Banner.text config .generate surroundings.terminal }

def first (surroundings : Surroundings) (config : Config) (workspace : Workspace) :
    Except PassFailure PassResult × Workspace :=
  pass surroundings config false
    { workspace with
      printed := workspace.printed ++ Banner.text config .watch surroundings.terminal }

def close (workspace : Workspace) : Workspace :=
  match workspace.log with
  | some log => { workspace with printed := workspace.printed ++ log.summary }
  | none => workspace

/-- A banner, a first pass that has to succeed, the script, and the summary. The session ends
stopped however its script ends. -/
def watch (surroundings : Surroundings) (config : Config) (script : List Batch)
    (workspace : Workspace) : Option PassFailure × Session :=
  match first surroundings config workspace with
  | (.error failure, done) => (some failure, Session.ofWorkspace done true)
  | (.ok _, done) =>
    let (ending, session) := Session.run surroundings.start config Session.standardDebounce
      (consume surroundings config) script (Session.ofWorkspace done false)
    let closed := { session with workspace := close session.workspace, stopped := true }
    match ending with
    | .failed failure => (some failure, closed)
    | _ => (none, closed)

end Generation

end PageRoutes
