import PageRoutes.Watch.Session

/-! The files in the course of a session.

A batch finds the files as the one before it left them, edits them, and may have a pass work on
them. What becomes of the files depends on nothing else: neither on the log nor on what was
printed. Main statement: a session that has followed some batches leaves the files as the last
of them left them.
-/

set_option autoImplicit false

namespace PageRoutes

def Ending.failure? : Ending → Option PassFailure
  | .failed failure => some failure
  | .finished | .interrupted => none

namespace Generation

variable (surroundings : Surroundings) (config : Config)

/-- What a pass comes to with these files, and the files that it leaves. -/
def attemptOn (system : FileSystem) (files : FileTree) : Except PassFailure PassResult × FileTree :=
  let done := passOn system surroundings config true ⟨files, 0, none, ""⟩
  (done.1, done.2.files)

def attempt (files : FileTree) : Except PassFailure PassResult × FileTree :=
  attemptOn surroundings config (.plain surroundings.start) files

@[simp] theorem files_say (workspace : Workspace) (line : String) :
    (workspace.say line).files = workspace.files := rfl

@[simp] theorem files_record (workspace : Workspace) (event : Nat → Event) :
    (workspace.record event).files = workspace.files := by
  unfold Workspace.record
  split <;> rfl

theorem abort_eq (failure : PassFailure) (workspace : Workspace) :
    (abort config failure workspace).1 = .error failure ∧
      (abort config failure workspace).2.files = workspace.files := by
  unfold abort
  split
  · exact ⟨rfl, files_record _ _⟩
  · exact ⟨rfl, rfl⟩

theorem passOn_eq (system : FileSystem) (quiet : Bool) (workspace : Workspace) :
    let result := passOn system surroundings config quiet workspace
    match Discovery.pagesOn system workspace.files surroundings.start config.pagesPath with
    | .error failure =>
      result.1 = .error (.discovery failure) ∧ result.2.files = workspace.files
    | .ok sources =>
      let text := RoutesModule.render surroundings.workingDirectory sources config
      let write := StagedWrite.runOn system workspace.files config.outputPath text
      result.2.files = write.tree ∧
      match write.outcome with
      | .error failure => result.1 = .error (.write failure)
      | .ok byteCount =>
        result.1 = .ok ⟨config.outputPath, sources.length, byteCount, surroundings.elapsed, text⟩ := by
  have begun : (if quiet then workspace else workspace.say "  Generating routes...").files =
      workspace.files := by
    split <;> rfl
  simp only [passOn, begun]
  cases Discovery.pagesOn system workspace.files surroundings.start config.pagesPath with
  | error failure =>
    obtain ⟨outcome, files⟩ := abort_eq config (.discovery failure)
      (if quiet then workspace else workspace.say "  Generating routes...")
    exact ⟨outcome, files.trans begun⟩
  | ok sources =>
    simp only
    cases (StagedWrite.runOn system workspace.files config.outputPath
      (RoutesModule.render surroundings.workingDirectory sources config)).outcome with
    | error failure =>
      obtain ⟨outcome, files⟩ := abort_eq config (.write failure)
        { (if quiet then workspace else workspace.say "  Generating routes...") with
          files := (StagedWrite.runOn system workspace.files config.outputPath
            (RoutesModule.render surroundings.workingDirectory sources config)).tree }
      exact ⟨files, outcome⟩
    | ok byteCount =>
      constructor
      · dsimp only
        split <;> simp
      · rfl

theorem pass_eq (quiet : Bool) (workspace : Workspace) :
    let result := pass surroundings config quiet workspace
    match Discovery.pages workspace.files surroundings.start config.pagesPath with
    | .error failure =>
      result.1 = .error (.discovery failure) ∧ result.2.files = workspace.files
    | .ok sources =>
      let text := RoutesModule.render surroundings.workingDirectory sources config
      let write := StagedWrite.run workspace.files surroundings.start config.outputPath text
      result.2.files = write.tree ∧
      match write.outcome with
      | .error failure => result.1 = .error (.write failure)
      | .ok byteCount =>
        result.1 = .ok ⟨config.outputPath, sources.length, byteCount, surroundings.elapsed, text⟩ :=
  passOn_eq surroundings config (.plain surroundings.start) quiet workspace

variable {surroundings config}

theorem steps_of_pass {quiet : Bool} {workspace : Workspace} {result : PassResult}
    (passed : (pass surroundings config quiet workspace).1 = .ok result) :
    ∃ sources count, Discovery.pages workspace.files surroundings.start config.pagesPath = .ok sources ∧
      (StagedWrite.run workspace.files surroundings.start config.outputPath result.text).outcome = .ok count ∧
      (pass surroundings config quiet workspace).2.files =
        (StagedWrite.run workspace.files surroundings.start config.outputPath result.text).tree ∧
      result = ⟨config.outputPath, sources.length, count, surroundings.elapsed,
        RoutesModule.render surroundings.workingDirectory sources config⟩ := by
  have course := pass_eq surroundings config quiet workspace
  simp only at course
  split at course
  · rw [course.1] at passed
    cases passed
  · rename_i sources discovered
    obtain ⟨left, outcome⟩ := course
    split at outcome
    · rw [outcome] at passed
      cases passed
    · rename_i count wrote
      rw [outcome] at passed
      cases passed
      exact ⟨sources, count, discovered, wrote, left, rfl⟩

theorem pass_of_steps (quiet : Bool) {workspace : Workspace} {sources : List Path} {count : Nat}
    (discovered : Discovery.pages workspace.files surroundings.start config.pagesPath = .ok sources)
    (wrote : (StagedWrite.run workspace.files surroundings.start config.outputPath
      (RoutesModule.render surroundings.workingDirectory sources config)).outcome = .ok count) :
    (pass surroundings config quiet workspace).1 = .ok ⟨config.outputPath, sources.length, count,
        surroundings.elapsed, RoutesModule.render surroundings.workingDirectory sources config⟩ ∧
      (pass surroundings config quiet workspace).2.files =
        (StagedWrite.run workspace.files surroundings.start config.outputPath
          (RoutesModule.render surroundings.workingDirectory sources config)).tree := by
  have course := pass_eq surroundings config quiet workspace
  simp only [discovered, wrote] at course
  exact ⟨course.2, course.1⟩

variable (surroundings config)

/-- The outcome of a pass and the files it leaves depend on the files it finds. -/
theorem passOn_eq_attemptOn (system : FileSystem) (quiet : Bool) (workspace : Workspace) :
    let result := passOn system surroundings config quiet workspace
    result.1 = (attemptOn surroundings config system workspace.files).1 ∧
      result.2.files = (attemptOn surroundings config system workspace.files).2 := by
  have any := passOn_eq surroundings config system quiet workspace
  have alone := passOn_eq surroundings config system true ⟨workspace.files, 0, none, ""⟩
  simp only [attemptOn] at any alone ⊢
  cases discovered : Discovery.pagesOn system workspace.files surroundings.start
    config.pagesPath with
  | error failure =>
    simp only [discovered] at any alone
    exact ⟨any.1.trans alone.1.symm, any.2.trans alone.2.symm⟩
  | ok sources =>
    simp only [discovered] at any alone
    refine ⟨?_, any.1.trans alone.1.symm⟩
    have outcome := any.2
    have same := alone.2
    split at outcome
    · rename_i failed
      simp only [failed] at same
      exact outcome.trans same.symm
    · rename_i wrote
      simp only [wrote] at same
      exact outcome.trans same.symm

theorem pass_eq_attempt (quiet : Bool) (workspace : Workspace) :
    let result := pass surroundings config quiet workspace
    result.1 = (attempt surroundings config workspace.files).1 ∧
      result.2.files = (attempt surroundings config workspace.files).2 :=
  passOn_eq_attemptOn surroundings config (.plain surroundings.start) quiet workspace

theorem first_eq_attempt (workspace : Workspace) :
    (first surroundings config workspace).1 =
        (attempt surroundings config workspace.files).1 ∧
      (first surroundings config workspace).2.files =
        (attempt surroundings config workspace.files).2 :=
  pass_eq_attempt surroundings config false _

variable {surroundings config} in
theorem first_of_files {workspace other done : Workspace}
    {outcome : Except PassFailure PassResult}
    (begun : first surroundings config workspace = (outcome, done))
    (same : other.files = workspace.files) :
    ∃ ended, first surroundings config other = (outcome, ended) ∧ ended.files = done.files := by
  have attempted := first_eq_attempt surroundings config workspace
  have attempts := first_eq_attempt surroundings config other
  rw [begun] at attempted
  rw [same] at attempts
  exact ⟨(first surroundings config other).2,
    Prod.ext (attempts.1.trans attempted.1.symm) rfl, attempts.2.trans attempted.2.symm⟩

variable {surroundings config} in
theorem exists_first_eq_ok {workspace : Workspace}
    (succeeds : (first surroundings config workspace).1.isOk = true) :
    ∃ result done, first surroundings config workspace = (.ok result, done) ∧
      done = (first surroundings config workspace).2 := by
  cases outcome : (first surroundings config workspace).1 with
  | error failure =>
    rw [outcome] at succeeds
    cases succeeds
  | ok result => exact ⟨result, _, Prod.ext outcome rfl, rfl⟩

/-- The files in the course of handling a batch. -/
def filesDuring (changes : List PageChange) (files : FileTree) : List FileTree :=
  let left := (attempt surroundings config files).2
  files :: List.replicate (changes.length + 1) files ++
    files :: writing surroundings config files ++ [left, left, left]

/-- One batch of a session: the files as it finds them, as its edits leave them, what a pass
comes to if it has one, the files in the end, and whether its handling was interrupted. -/
structure Moment where
  batch : Batch
  found : FileTree
  edited : FileTree
  outcome : Option (Except PassFailure PassResult)
  left : FileTree
  cut : Bool

/-- A batch that interrupts the session or has no page changes has no pass, and one whose handling
is interrupted has none that comes to anything. -/
def momentOf (batch : Batch) (found : FileTree) : Moment :=
  let edited := batch.edits.foldl (fun files edit => files.edit surroundings.start edit) found
  let changes := PageChange.relevant config batch.changes
  if batch.interrupt ∨ changes = [] then ⟨batch, found, edited, none, edited, false⟩
  else
    let attempted := attempt surroundings config edited
    match batch.cut with
    | some steps =>
      ⟨batch, found, edited, none,
        (filesDuring surroundings config changes edited).getD steps attempted.2, true⟩
    | none => ⟨batch, found, edited, some attempted.1, attempted.2, false⟩

/-- What a batch comes to: nothing, an interrupt in the course of its handling, or a pass. -/
theorem momentOf_cases (batch : Batch) (found : FileTree) :
    let edited := batch.edits.foldl (fun files edit => files.edit surroundings.start edit) found
    let changes := PageChange.relevant config batch.changes
    let attempted := attempt surroundings config edited
    ((batch.interrupt = true ∨ changes = []) ∧
      momentOf surroundings config batch found = ⟨batch, found, edited, none, edited, false⟩) ∨
    (batch.interrupt = false ∧ changes ≠ [] ∧ ∃ steps, batch.cut = some steps ∧
      momentOf surroundings config batch found = ⟨batch, found, edited, none,
        (filesDuring surroundings config changes edited).getD steps attempted.2, true⟩) ∨
    (batch.interrupt = false ∧ changes ≠ [] ∧ batch.cut = none ∧
      momentOf surroundings config batch found =
        ⟨batch, found, edited, some attempted.1, attempted.2, false⟩) := by
  intro edited changes attempted
  by_cases passedOver : batch.interrupt = true ∨ changes = []
  · exact .inl ⟨passedOver, if_pos passedOver⟩
  · obtain ⟨goes, relevant⟩ := not_or.1 passedOver
    rw [Bool.not_eq_true] at goes
    have handled : momentOf surroundings config batch found = _ := if_neg passedOver
    cases cut : batch.cut with
    | some steps => exact .inr (.inl ⟨goes, relevant, steps, rfl, by rw [handled, cut]⟩)
    | none => exact .inr (.inr ⟨goes, relevant, rfl, by rw [handled, cut]⟩)

@[simp] theorem batch_momentOf (batch : Batch) (found : FileTree) :
    (momentOf surroundings config batch found).batch = batch := by
  rcases momentOf_cases surroundings config batch found with
    ⟨_, moment⟩ | ⟨_, _, _, _, moment⟩ | ⟨_, _, _, moment⟩ <;> rw [moment]

@[simp] theorem found_momentOf (batch : Batch) (found : FileTree) :
    (momentOf surroundings config batch found).found = found := by
  rcases momentOf_cases surroundings config batch found with
    ⟨_, moment⟩ | ⟨_, _, _, _, moment⟩ | ⟨_, _, _, moment⟩ <;> rw [moment]

@[simp] theorem edited_momentOf (batch : Batch) (found : FileTree) :
    (momentOf surroundings config batch found).edited =
      batch.edits.foldl (fun files edit => files.edit surroundings.start edit) found := by
  rcases momentOf_cases surroundings config batch found with
    ⟨_, moment⟩ | ⟨_, _, _, _, moment⟩ | ⟨_, _, _, moment⟩ <;> rw [moment]

def escapes : Except PassFailure PassResult → Bool
  | .ok _ => false
  | .error failure => failure.report?.isNone

/-- Whether no further batch is handled: after a stop, an interrupt, and a failure that is
handed on. -/
def Moment.endsSession (moment : Moment) : Bool :=
  moment.batch.stop || moment.batch.interrupt || moment.cut || moment.outcome.any escapes

def moments : List Batch → FileTree → List Moment
  | [], _ => []
  | batch :: rest, found =>
    let moment := momentOf surroundings config batch found
    moment :: if moment.endsSession then [] else moments rest moment.left

def Moment.text? (moment : Moment) : Option String :=
  match moment.outcome with
  | some (.ok result) => some result.text
  | _ => none

def filesAfter (files : FileTree) (moments : List Moment) : FileTree :=
  (moments.map Moment.left).getLastD files

@[simp] theorem filesAfter_nil (files : FileTree) : filesAfter files [] = files := rfl

@[simp] theorem filesAfter_cons (files : FileTree) (moment : Moment) (rest : List Moment) :
    filesAfter files (moment :: rest) = filesAfter moment.left rest := by
  rw [filesAfter, List.map_cons, List.getLastD_cons, filesAfter]

theorem getLastD_filterMap_cons {α β : Type} (value? : α → Option β) (before : β) (first : α)
    (rest : List α) :
    ((first :: rest).filterMap value?).getLastD before =
      (rest.filterMap value?).getLastD ((value? first).getD before) := by
  cases said : value? first with
  | none => rw [List.filterMap_cons_none said, Option.getD_none]
  | some value => rw [List.filterMap_cons_some said, List.getLastD_cons, Option.getD_some]

theorem take_moments (script : List Batch) (files : FileTree) (handled : Nat) :
    moments surroundings config (script.take handled) files =
      (moments surroundings config script files).take handled := by
  induction script generalizing files handled with
  | nil => simp [moments]
  | cons batch rest ih =>
    cases handled with
    | zero => simp [moments]
    | succ handled =>
      rw [List.take_succ_cons, moments, moments, List.take_succ_cons]
      split
      · rw [List.take_nil]
      · rw [ih]

theorem follow_stopped {start : Location} {consume : Session.Consumer} (script : List Batch)
    {session : Session} (stopped : session.stopped = true) :
    (Session.follow start config consume script session).1 = .finished ∧
      (Session.follow start config consume script session).2.workspace = session.workspace := by
  cases script with
  | nil => exact ⟨rfl, rfl⟩
  | cons batch rest =>
    rw [Session.follow, if_pos stopped]
    exact ⟨rfl, rfl⟩

theorem files_announce (changes : List PageChange) (workspace : Workspace) :
    (changes.foldl (fun workspace change => workspace.say (changeLine change)) workspace).files =
      workspace.files := by
  induction changes generalizing workspace with
  | nil => rfl
  | cons change rest ih => rw [List.foldl_cons, ih, files_say]

theorem regenerateOn_eq (system : FileSystem) (changes : List PageChange) (workspace : Workspace) :
    let attempted := attemptOn surroundings config system workspace.files
    let result := regenerateOn system surroundings config changes workspace
    result.2.files = attempted.2 ∧ result.1.isOk = !escapes attempted.1 := by
  have announced : (changes.foldl (fun workspace change => workspace.say (changeLine change))
      (workspace.record (changedEvent changes))).files = workspace.files := by
    rw [files_announce, files_record]
  obtain ⟨outcome, left⟩ := passOn_eq_attemptOn surroundings config system false
    (changes.foldl (fun workspace change => workspace.say (changeLine change))
      (workspace.record (changedEvent changes)))
  rw [announced] at outcome left
  -- What is recorded and said in front of the pass leaves the files alone.
  simp only [regenerateOn]
  rw [← outcome, ← left]
  split
  · rename_i result done passed
    simp [passed, escapes, Except.isOk, Except.toBool]
  · rename_i failure done passed
    cases reported : failure.report? with
    | none => simp [passed, escapes, reported, Except.isOk, Except.toBool]
    | some report => simp [passed, escapes, reported, Except.isOk, Except.toBool]

theorem regenerate_eq (changes : List PageChange) (workspace : Workspace) :
    let attempted := attempt surroundings config workspace.files
    let result := regenerate surroundings config changes workspace
    result.2.files = attempted.2 ∧ result.1.isOk = !escapes attempted.1 :=
  regenerateOn_eq surroundings config (.plain surroundings.start) changes workspace

theorem files_instants (changes : List PageChange) (workspace : Workspace) :
    (instants surroundings config changes workspace).map Workspace.files =
      filesDuring surroundings config changes workspace.files := by
  have announced (said : List PageChange) :
      (said.foldl (fun workspace change => workspace.say (changeLine change))
        (workspace.record (changedEvent changes))).files = workspace.files := by
    rw [files_announce, files_record]
  have passed := (pass_eq_attempt surroundings config false
    (changes.foldl (fun workspace change => workspace.say (changeLine change))
      (workspace.record (changedEvent changes)))).2
  rw [announced] at passed
  have handled := (regenerate_eq surroundings config changes workspace).1
  simp only [filesDuring, instants, List.take_length, List.map_append, List.map_cons, List.map_map,
    List.map_nil, Function.comp_def, List.map_id', List.map_const', List.length_range, files_say,
    announced, passed, handled]

theorem consume_cut (steps : Nat) (changes : List PageChange) (session : Session) :
    let result := consume surroundings config (some steps) changes session
    let files := session.workspace.files
    result.1 = some .interrupted ∧ result.2.stopped = session.stopped ∧
      result.2.workspace.files = (filesDuring surroundings config changes files).getD steps
        (attempt surroundings config files).2 := by
  refine ⟨rfl, rfl, ?_⟩
  rw [← files_instants, List.getD_eq_getElem?_getD, List.getElem?_map,
    ← (regenerate_eq surroundings config changes _).1, Option.getD_map,
    ← List.getD_eq_getElem?_getD]
  rfl

theorem consume_eq (changes : List PageChange) (session : Session) :
    let attempted := attempt surroundings config session.workspace.files
    let result := consume surroundings config none changes session
    result.2.workspace.files = attempted.2 ∧ result.2.stopped = session.stopped ∧
      result.1.isSome = escapes attempted.1 := by
  obtain ⟨left, fine⟩ := regenerate_eq surroundings config changes session.workspace
  refine ⟨left, rfl, ?_⟩
  simp only [consume]
  cases outcome : (regenerate surroundings config changes session.workspace).1 with
  | ok result =>
    rw [outcome] at fine
    simpa [Except.isOk, Except.toBool] using fine
  | error failure =>
    rw [outcome] at fine
    simpa [Except.isOk, Except.toBool] using fine

/-- What a session makes of a batch that comes out. -/
def handle (batch : Batch) (session : Session) : Option Ending × Session :=
  Session.deliver (consume surroundings config) batch.cut
    (PageChange.relevant config batch.changes)
    { Session.editFiles surroundings.start batch session with stopped := batch.stop }

theorem handle_eq (batch : Batch) (session : Session) (goes : batch.interrupt = false) :
    let moment := momentOf surroundings config batch session.workspace.files
    let result := handle surroundings config batch session
    result.2.workspace.files = moment.left ∧ result.2.stopped = batch.stop ∧
      result.1.isSome = (moment.cut || moment.outcome.any escapes) ∧
      (moment.outcome.any escapes = false → ∀ failure, result.1 ≠ some (.failed failure)) := by
  intro moment result
  let edited := Session.editFiles surroundings.start batch session
  let changes := PageChange.relevant config batch.changes
  let handed : Session :=
    { edited with stopped := batch.stop, delivered := edited.delivered ++ [changes] }
  have given : changes ≠ [] → result = consume surroundings config batch.cut changes handed :=
    fun relevant => if_neg relevant
  -- Nothing to hand over, an interrupt in the middle, and a pass that comes to something.
  rcases momentOf_cases surroundings config batch session.workspace.files with
    ⟨passedOver, same⟩ | ⟨_, relevant, steps, cut, same⟩ | ⟨_, relevant, whole, same⟩
  · have nothing : result = (none, { edited with stopped := batch.stop }) :=
      if_pos (passedOver.resolve_left (by simp [goes]))
    rw [nothing, show moment = _ from same]
    exact ⟨rfl, rfl, rfl, fun _ _ => nofun⟩
  · rw [given relevant, show moment = _ from same, cut]
    obtain ⟨interrupted, stopped, left⟩ := consume_cut surroundings config steps changes handed
    exact ⟨left, stopped, rfl, fun _ _ => nofun⟩
  · rw [given relevant, show moment = _ from same, whole]
    obtain ⟨left, stopped, escaped⟩ := consume_eq surroundings config changes handed
    refine ⟨left, stopped, escaped, fun reported failure failed => ?_⟩
    rw [failed] at escaped
    exact absurd (escaped.trans reported) (by simp)

theorem follow_cons (batch : Batch) (rest : List Batch) {session : Session}
    (running : session.stopped = false) :
    Session.follow surroundings.start config (consume surroundings config) (batch :: rest) session =
      if batch.interrupt then (.interrupted, Session.editFiles surroundings.start batch session)
      else
        match handle surroundings config batch session with
        | (some ending, ended) => (ending, ended)
        | (none, handled) =>
          Session.follow surroundings.start config (consume surroundings config) rest
            (Session.look surroundings.start batch handled) := by
  rw [Session.follow, if_neg (by simp [running])]
  rfl

def workspaceAfter (batch : Batch) (session : Session) : Workspace :=
  if batch.interrupt then (Session.editFiles surroundings.start batch session).workspace
  else (handle surroundings config batch session).2.workspace

/-- The first batch of a script ends the session with what its moment leaves, or the session goes
on behind it. It fails only where the pass fails without a report. -/
theorem follow_step (batch : Batch) (rest : List Batch) {session : Session}
    (running : session.stopped = false) :
    let moment := momentOf surroundings config batch session.workspace.files
    let result := Session.follow surroundings.start config (consume surroundings config)
      (batch :: rest) session
    let after := workspaceAfter surroundings config batch session
    after.files = moment.left ∧
      ((moment.endsSession = true ∧ result.2.workspace = after ∧
          (moment.outcome.any escapes = false → ∀ failure, result.1 ≠ .failed failure)) ∨
        (moment.endsSession = false ∧ ∃ next : Session, next.stopped = false ∧
          next.workspace = after ∧ result = Session.follow surroundings.start config
            (consume surroundings config) rest next)) := by
  intro moment result after
  have result_eq : result = _ := follow_cons surroundings config batch rest running
  cases interrupted : batch.interrupt with
  | true =>
    have unhandled : moment = _ := if_pos (.inl interrupted)
    have after_eq : after = (Session.editFiles surroundings.start batch session).workspace :=
      if_pos interrupted
    rw [interrupted, if_pos rfl] at result_eq
    rw [after_eq]
    refine ⟨by rw [unhandled]; rfl, .inl ⟨?_, by rw [result_eq], ?_⟩⟩
    · simp [moment, Moment.endsSession, interrupted]
    · rintro _ failure
      rw [result_eq]
      exact nofun
  | false =>
    obtain ⟨left, stopped, ended, reports⟩ := handle_eq surroundings config batch session interrupted
    have after_eq : after = (handle surroundings config batch session).2.workspace :=
      if_neg (by simp [interrupted])
    rw [interrupted, if_neg Bool.false_ne_true] at result_eq
    rw [after_eq]
    refine ⟨left, ?_⟩
    generalize handle surroundings config batch session = handled at stopped ended reports result_eq
    obtain ⟨ending?, session'⟩ := handled
    have ends : moment.endsSession = (batch.stop || ending?.isSome) := by
      simp only [show ending?.isSome = _ from ended, moment, Moment.endsSession, batch_momentOf,
        interrupted, Bool.or_false, Bool.or_assoc]
    rw [ends]
    cases ending? with
    -- An interrupt and a failure that is not reported end the session with the files as they are.
    | some ending =>
      refine .inl ⟨by simp, by rw [result_eq], fun reported failure failed => ?_⟩
      rw [result_eq] at failed
      exact reports reported failure (congrArg some failed)
    | none =>
      rw [Option.isSome_none, Bool.or_false]
      -- A stop is seen in front of the next batch, and so nothing of the rest is handled.
      cases stops : batch.stop with
      | false =>
        exact .inr ⟨rfl, Session.look surroundings.start batch session', stopped.trans stops, rfl,
          result_eq⟩
      | true =>
        have still : (Session.look surroundings.start batch session').stopped = true :=
          stopped.trans stops
        obtain ⟨finished, same⟩ := follow_stopped config rest still
        refine .inl ⟨rfl, by rw [result_eq, same]; rfl, fun _ failure => ?_⟩
        rw [result_eq, finished]
        exact nofun

theorem files_follow (script : List Batch) (session : Session)
    (running : session.stopped = false) :
    (Session.follow surroundings.start config (consume surroundings config) script
        session).2.workspace.files =
      filesAfter session.workspace.files
        (moments surroundings config script session.workspace.files) := by
  -- The rest of a script finds the files that the moment in front of it has left.
  induction script generalizing session with
  | nil => rfl
  | cons batch rest ih =>
    rw [moments, filesAfter_cons]
    obtain ⟨left, ⟨ends, same, _⟩ | ⟨ends, next, stopped, same, onwards⟩⟩ :=
      follow_step surroundings config batch rest running
    · rw [if_pos ends, same, left, filesAfter_nil]
    · rw [onwards, ih next stopped, same, left, ends, if_neg Bool.false_ne_true]

theorem watch_eq (script : List Batch) {workspace done : Workspace} {result : PassResult}
    (begun : first surroundings config workspace = (.ok result, done)) :
    let followed := Session.run surroundings.start config Session.standardDebounce
      (consume surroundings config) script (Session.ofWorkspace done false)
    watch surroundings config script workspace = (followed.1.failure?,
      { followed.2 with workspace := close followed.2.workspace, stopped := true }) := by
  intro followed
  have run_eq : Session.run surroundings.start config Session.standardDebounce
      (consume surroundings config) script (Session.ofWorkspace done false) = followed := rfl
  simp only [watch, begun, run_eq]
  cases followed.1 <;> rfl

/-- Once the first pass has succeeded, the files of a session are those of its moments. -/
theorem files_watch (script : List Batch) {workspace done : Workspace} {result : PassResult}
    (begun : first surroundings config workspace = (.ok result, done)) :
    (watch surroundings config script workspace).2.workspace.files =
      filesAfter done.files (moments surroundings config script done.files) := by
  have followed := files_follow surroundings config script
    ((Session.ofWorkspace done false).observe
      (.watching config.pagesPath Session.standardDebounce Session.standardStep)) rfl
  have closed : ∀ workspace, (close workspace).files = workspace.files := by
    intro workspace
    unfold close
    split <;> rfl
  rw [watch_eq surroundings config script begun]
  exact (closed _).trans followed

end Generation

end PageRoutes
