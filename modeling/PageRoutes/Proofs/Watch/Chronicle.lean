import PageRoutes.Proofs.EventLog.Summary
import PageRoutes.Proofs.Generation.Record

/-! The history of a session.

What a session appends to its log follows a grammar: a generated module first, and then, for each
batch that comes out with page changes, the event of the changes and the event of their pass. Main
statement: in a session whose passes all report their failures the log holds a history of this
form, nothing but the lines of the passes is printed in front of the summary, and the numbers of
the summary balance, whatever the capacity of the log.
-/

set_option autoImplicit false

namespace PageRoutes

/-- The batches of a script that come out: up to a stop, and none from an interrupt on. -/
def Batch.delivered : List Batch → List Batch
  | [] => []
  | batch :: rest =>
    if batch.interrupt then [] else if batch.stop then [batch] else batch :: delivered rest

namespace PageChange

/-- The reported pairs that matter: something was added or deleted at the pages directory or
below it. A pair that is reported twice counts once. -/
def reports (config : Config) (changes : List (RawChange × String)) : List (RawChange × String) :=
  changes.eraseDups.filter fun (change, path) =>
    change ≠ .modified ∧ (Path.ofString path).IsUnder config.pagesPath

def ofReport (report : RawChange × String) : PageChange :=
  ⟨Path.ofString report.2, if report.1 = .added then .created else .deleted⟩

theorem relevant_eq (config : Config) (changes : List (RawChange × String)) :
    relevant config changes = ((reports config changes).map ofReport).mergeSort before := by
  rw [relevant, reports, ← List.filterMap_eq_map, List.filterMap_filter]
  congr 1
  refine List.filterMap_congr fun (change, path) _ => ?_
  by_cases under : (Path.ofString path).IsUnder config.pagesPath <;>
    cases change <;> simp [classify?, kindOf?, ofReport, under]

theorem relevant_perm (config : Config) (changes : List (RawChange × String)) :
    (relevant config changes).Perm ((reports config changes).map ofReport) := by
  rw [relevant_eq]
  exact List.mergeSort_perm _ _

theorem relevant_eq_nil_iff (config : Config) (changes : List (RawChange × String)) :
    relevant config changes = [] ↔ reports config changes = [] := by
  rw [← List.length_eq_zero_iff, (relevant_perm config changes).length_eq, List.length_map,
    List.length_eq_zero_iff]

theorem before_trans (first second third : PageChange) (earlier : first.before second = true)
    (later : second.before third = true) : first.before third = true :=
  decide_eq_true (String.le_trans (of_decide_eq_true earlier) (of_decide_eq_true later))

theorem before_total (first second : PageChange) :
    (first.before second || second.before first) = true := by
  simp only [before, Bool.or_eq_true, decide_eq_true_eq]
  exact String.le_total _ _

theorem pairwise_relevant (config : Config) (changes : List (RawChange × String)) :
    (relevant config changes).Pairwise fun first second =>
      first.path.toString ≤ second.path.toString := by
  rw [relevant_eq]
  exact (List.pairwise_mergeSort before_trans before_total _).imp of_decide_eq_true

end PageChange

namespace Generation

/-- An event of some reports: how many paths were added and how many were not, and the first of
the paths in the order of their texts. -/
def Announces (reports : List (RawChange × String)) (event : Event) : Prop :=
  ∃ path created deleted time, event = .pagesChanged path created deleted time ∧
    created = (reports.countP fun report => report.1 = .added : Nat) ∧
    created + deleted = reports.length ∧
    path ∈ reports.map (fun report => (Path.ofString report.2).toString) ∧
    ∀ report ∈ reports, path ≤ (Path.ofString report.2).toString

/-- The histories of some batches that come out. -/
inductive Chronicle (config : Config) : List Batch → List Event → Prop where
  | nil : Chronicle config [] []
  | passedOver {batch : Batch} {batches : List Batch} {history : List Event} :
      PageChange.reports config batch.changes = [] → Chronicle config batches history →
      Chronicle config (batch :: batches) history
  | handled {batch : Batch} {batches : List Batch} {changed passed : Event}
      {history : List Event} : PageChange.reports config batch.changes ≠ [] →
      Announces (PageChange.reports config batch.changes) changed →
      passed.kind = .routesGenerated ∨ passed.kind = .generationFailed →
      Chronicle config batches history →
      Chronicle config (batch :: batches) (changed :: passed :: history)

/-- The lines of a session in front of its summary. -/
inductive StatusLine : String → Prop where
  | begun : StatusLine "  Generating routes..."
  | done (count : Nat) (path : Path) (elapsed : Duration) : StatusLine (doneLine count path elapsed)
  | failed (message : String) : StatusLine ("  Generation error: " ++ message)
  | changed (change : PageChange) : StatusLine (changeLine change)

theorem Announces.kind {reports : List (RawChange × String)} {event : Event}
    (announces : Announces reports event) : event.kind = .pagesChanged := by
  obtain ⟨_, _, _, _, rfl, _⟩ := announces
  rfl

variable {config : Config}

theorem Chronicle.balanced {batches : List Batch} {history : List Event}
    (chronicle : Chronicle config batches history) :
    let kinds := history.map Event.kind
    kinds.count .pagesChanged = kinds.count .routesGenerated + kinds.count .generationFailed := by
  induction chronicle with
  | nil => rfl
  | passedOver _ _ ih => exact ih
  | handled _ announces ended _ ih =>
    rcases ended with ended | ended <;> simp [announces.kind, ended, ih] <;> omega

theorem announces_changedEvent {changes : List (RawChange × String)} (time : Nat)
    (changed : PageChange.reports config changes ≠ []) :
    Announces (PageChange.reports config changes)
      (changedEvent (PageChange.relevant config changes) time) := by
  -- The event tells of the sorted changes, which are the reports in another order.
  have same := PageChange.relevant_perm config changes
  have created :
      (PageChange.relevant config changes).countP (fun change => change.kind = .created) =
        (PageChange.reports config changes).countP fun report => report.1 = .added := by
    rw [same.countP_eq, List.countP_map]
    refine List.countP_congr fun report _ => ?_
    by_cases added : report.1 = .added <;> simp [PageChange.ofReport, added]
  have length : (PageChange.relevant config changes).length =
      (PageChange.reports config changes).length := by
    rw [same.length_eq, List.length_map]
  have sorted := PageChange.pairwise_relevant config changes
  cases listed : PageChange.relevant config changes with
  | nil => exact absurd ((PageChange.relevant_eq_nil_iff config changes).1 listed) changed
  | cons first rest =>
    have member : ∀ change, change ∈ first :: rest ↔
        ∃ report ∈ PageChange.reports config changes, PageChange.ofReport report = change := by
      intro change
      rw [← listed, same.mem_iff, List.mem_map]
    rw [listed] at created length sorted
    refine ⟨_, _, _, _, rfl, by rw [created], ?_, ?_, ?_⟩
    · rw [length]
      omega
    · obtain ⟨report, reported, rfl⟩ := (member first).1 List.mem_cons_self
      exact List.mem_map.2 ⟨report, reported, rfl⟩
    · intro report reported
      rcases List.mem_cons.1 ((member _).2 ⟨report, reported, rfl⟩) with first | later
      · rw [← first]
        exact String.le_refl _
      · have earlier := (List.pairwise_cons.1 sorted).1 _ later
        exact earlier

variable (surroundings : Surroundings) (config : Config)

namespace Moment

def events (moment : Moment) (clock : Nat) : List Event :=
  match moment.outcome with
  | none => []
  | some outcome =>
    roundEvents config (PageChange.relevant config moment.batch.changes) outcome clock

def lines (moment : Moment) : List String :=
  match moment.outcome with
  | none => []
  | some outcome => roundLines (PageChange.relevant config moment.batch.changes) outcome

end Moment

def historyOf : List Moment → Nat → List Event
  | [], _ => []
  | moment :: rest, clock =>
    let events := moment.events config clock
    events ++ historyOf rest (clock + events.length)

theorem outcome_momentOf {batch : Batch} (found : FileTree) (goes : batch.interrupt = false)
    (whole : batch.cut = none) :
    (momentOf surroundings config batch found).outcome =
      if PageChange.relevant config batch.changes = [] then none
      else
        some (attempt surroundings config (momentOf surroundings config batch found).edited).1 := by
  unfold momentOf
  by_cases irrelevant : PageChange.relevant config batch.changes = [] <;>
    simp [goes, whole, irrelevant]

theorem cut_momentOf {batch : Batch} (found : FileTree) (whole : batch.cut = none) :
    (momentOf surroundings config batch found).cut = false := by
  rcases momentOf_cases surroundings config batch found with
    ⟨_, moment⟩ | ⟨_, _, _, cut, _⟩ | ⟨_, _, _, moment⟩
  · rw [moment]
  · cases whole.symm.trans cut
  · rw [moment]

theorem outcome_momentOf_of_interrupt {batch : Batch} (found : FileTree)
    (interrupted : batch.interrupt = true) :
    (momentOf surroundings config batch found).outcome = none := by
  rw [momentOf, if_pos (.inl interrupted)]

theorem exists_eventOf? {outcome : Except PassFailure PassResult} (time : Nat)
    (reported : escapes outcome = false) :
    ∃ event, eventOf? config outcome time = some event ∧
      (event.kind = .routesGenerated ∨ event.kind = .generationFailed) := by
  cases outcome with
  | ok result => exact ⟨_, rfl, .inl rfl⟩
  | error failure =>
    cases report : failure.report? with
    | none => simp [escapes, report] at reported
    | some said => exact ⟨_, by rw [eventOf?, report]; rfl, .inr rfl⟩

variable {surroundings config}

theorem Chronicle.cons {batch : Batch} {found : FileTree} {batches : List Batch}
    {history : List Event} (clock : Nat) (goes : batch.interrupt = false)
    (whole : batch.cut = none)
    (reported : (momentOf surroundings config batch found).outcome.any escapes = false)
    (rest : Chronicle config batches history) :
    Chronicle config (batch :: batches)
      ((momentOf surroundings config batch found).events config clock ++ history) := by
  have outcome := outcome_momentOf surroundings config found goes whole
  rw [outcome] at reported
  by_cases irrelevant : PageChange.relevant config batch.changes = []
  · rw [if_pos irrelevant] at outcome
    rw [Moment.events, outcome]
    exact .passedOver ((PageChange.relevant_eq_nil_iff config _).1 irrelevant) rest
  · rw [if_neg irrelevant] at outcome reported
    have changed := mt (PageChange.relevant_eq_nil_iff config _).2 irrelevant
    obtain ⟨event, passed, kind⟩ := exists_eventOf? config (clock + 2) reported
    rw [Moment.events, outcome]
    simp only [roundEvents, batch_momentOf, passed]
    exact .handled changed (announces_changedEvent _ changed) kind rest

/-- Moments whose passes report their failures append a history of the batches that came out. -/
theorem chronicle_moments {script : List Batch} {files : FileTree} (clock : Nat)
    (whole : ∀ batch ∈ script, batch.cut = none)
    (reported : ∀ moment ∈ moments surroundings config script files,
      moment.outcome.any escapes = false) :
    Chronicle config (Batch.delivered script)
      (historyOf config (moments surroundings config script files) clock) := by
  induction script generalizing files clock with
  | nil => exact .nil
  | cons batch rest ih =>
    simp only [moments, List.mem_cons, forall_eq_or_imp] at whole reported
    obtain ⟨reports, later⟩ := reported
    rw [moments, historyOf, Batch.delivered]
    -- An interrupt ends the session without an event, and a stop is the last batch to add its own.
    by_cases interrupted : batch.interrupt = true
    · have silent := outcome_momentOf_of_interrupt surroundings config files interrupted
      rw [if_pos interrupted, if_pos (by simp [Moment.endsSession, interrupted]), Moment.events,
        silent]
      exact .nil
    · rw [Bool.not_eq_true] at interrupted
      have ends : (momentOf surroundings config batch files).endsSession = batch.stop := by
        simp [Moment.endsSession, interrupted, reports, cut_momentOf surroundings config files whole.1]
      rw [ends] at later ⊢
      rw [interrupted, if_neg Bool.false_ne_true]
      cases stops : batch.stop with
      | true => exact Chronicle.cons clock interrupted whole.1 reports .nil
      | false =>
        rw [stops] at later
        exact Chronicle.cons clock interrupted whole.1 reports (ih _ whole.2 later)

variable (surroundings config)

theorem workspace_consume (changes : List PageChange) (session : Session) :
    (consume surroundings config none changes session).2.workspace =
      (regenerate surroundings config changes session.workspace).2 := rfl

theorem adds_handle (batch : Batch) (session : Session) (goes : batch.interrupt = false)
    (whole : batch.cut = none) (kept : session.workspace.log.isSome = true) :
    let moment := momentOf surroundings config batch session.workspace.files
    session.workspace.Adds (handle surroundings config batch session).2.workspace
      (moment.events config session.workspace.clock) (moment.lines config) := by
  intro moment
  have outcome := outcome_momentOf surroundings config session.workspace.files goes whole
  rw [handle, whole, Session.deliver, Moment.events, Moment.lines, outcome]
  by_cases irrelevant : PageChange.relevant config batch.changes = []
  · rw [if_pos irrelevant, if_pos irrelevant]
    exact .nothing rfl rfl rfl
  · rw [if_neg irrelevant, if_neg irrelevant, workspace_consume]
    simp only [moment, batch_momentOf, edited_momentOf]
    let edited := (Session.editFiles surroundings.start batch session).workspace
    have still : edited.log.isSome = true := kept
    have handled := adds_regenerate surroundings config
      (PageChange.relevant config batch.changes) still
    exact ⟨handled.log, handled.clock, handled.printed⟩

theorem adds_workspaceAfter (batch : Batch) (session : Session) (whole : batch.cut = none)
    (kept : session.workspace.log.isSome = true) :
    let moment := momentOf surroundings config batch session.workspace.files
    session.workspace.Adds (workspaceAfter surroundings config batch session)
      (moment.events config session.workspace.clock) (moment.lines config) := by
  intro moment
  unfold workspaceAfter
  cases interrupted : batch.interrupt with
  | true =>
    have silent : moment.outcome = none :=
      outcome_momentOf_of_interrupt surroundings config session.workspace.files interrupted
    rw [if_pos rfl, Moment.events, Moment.lines, silent]
    exact .nothing rfl rfl rfl
  | false =>
    rw [if_neg Bool.false_ne_true]
    exact adds_handle surroundings config batch session interrupted whole kept

/-- A session that follows a script adds what its moments add. It fails only where a pass fails
without a report. -/
theorem adds_follow (script : List Batch) (session : Session)
    (whole : ∀ batch ∈ script, batch.cut = none) (running : session.stopped = false)
    (kept : session.workspace.log.isSome = true) :
    let course := moments surroundings config script session.workspace.files
    let result := Session.follow surroundings.start config (consume surroundings config) script
      session
    session.workspace.Adds result.2.workspace (historyOf config course session.workspace.clock)
      (course.flatMap (Moment.lines config)) ∧
    ((∀ moment ∈ course, moment.outcome.any escapes = false) →
      ∀ failure, result.1 ≠ .failed failure) := by
  -- The rest of a script finds the clock and the log as the batch in front has left them.
  induction script generalizing session with
  | nil => exact ⟨.nothing rfl rfl rfl, fun _ _ => nofun⟩
  | cons batch rest ih =>
    obtain ⟨here, behind⟩ := List.forall_mem_cons.1 whole
    have added := adds_workspaceAfter surroundings config batch session here kept
    obtain ⟨left, ⟨ends, same, fails⟩ | ⟨ends, next, stopped, same, onwards⟩⟩ :=
      follow_step surroundings config batch rest running
    · simp only [moments, ends, if_true, historyOf, List.append_nil, List.flatMap_singleton,
        List.mem_singleton, forall_eq, same]
      exact ⟨added, fails⟩
    · rw [← same] at added left
      obtain ⟨further, fails⟩ := ih next behind stopped (added.isSome_log.trans kept)
      rw [added.clock kept, left] at further
      rw [left] at fails
      simp only [moments, ends, historyOf, List.flatMap_cons, List.mem_cons, forall_eq_or_imp,
        onwards]
      exact ⟨added.trans further, fun reported => fails reported.2⟩

theorem statusLine_of_passLines {outcome : Except PassFailure PassResult} {line : String}
    (printed : line ∈ passLines outcome) : StatusLine line := by
  rcases List.mem_cons.1 printed with rfl | printed
  · exact .begun
  · cases outcome with
    | ok result =>
      rw [List.mem_singleton.1 printed]
      exact .done _ _ _
    | error failure => cases printed

theorem statusLine_of_moment {moment : Moment} {line : String}
    (printed : line ∈ moment.lines config) : StatusLine line := by
  unfold Moment.lines at printed
  split at printed
  · cases printed
  · rename_i outcome _
    rcases List.mem_append.1 printed with printed | printed
    · rcases List.mem_append.1 printed with printed | printed
      · obtain ⟨change, _, rfl⟩ := List.mem_map.1 printed
        exact .changed change
      · exact statusLine_of_passLines printed
    · cases outcome with
      | ok result => cases printed
      | error failure =>
        obtain ⟨report, _, rfl⟩ := Option.map_eq_some_iff.1 (Option.mem_toList.1 printed)
        exact .failed report.2

theorem adds_watch {script : List Batch} {workspace done : Workspace} {result : PassResult}
    (whole : ∀ batch ∈ script, batch.cut = none)
    (begun : first surroundings config workspace = (.ok result, done)) {log : EventLog}
    (kept : workspace.log = some log) :
    let course := moments surroundings config script done.files
    let events := (eventOf? config (.ok result) (workspace.clock + 1)).toList ++
      historyOf config course (workspace.clock + 1)
    let lines := passLines (.ok result) ++ course.flatMap (Moment.lines config)
    let closing := events.foldl EventLog.append log
    let ended := watch surroundings config script workspace
    ended.2.stopped = true ∧ ended.2.workspace.log = some closing ∧
      ended.2.workspace.printed = workspace.printed ++
        Banner.text config .watch surroundings.terminal ++ printedLines lines ++ closing.summary ∧
      ((∀ moment ∈ course, moment.outcome.any escapes = false) → ended.1 = none) := by
  intro course events lines closing ended
  let greeted : Workspace := { workspace with
    printed := workspace.printed ++ Banner.text config .watch surroundings.terminal }
  let opened : Session := (Session.ofWorkspace done false).observe
    (.watching config.pagesPath Session.standardDebounce Session.standardStep)
  let followed := Session.follow surroundings.start config (consume surroundings config) script
    opened
  have present : greeted.log.isSome = true := Option.isSome_of_eq_some kept
  have passed := adds_pass surroundings config greeted
  rw [show pass surroundings config false greeted = _ from begun] at passed
  obtain ⟨onwards, fails⟩ := adds_follow surroundings config script opened whole rfl
    (passed.isSome_log.trans present)
  rw [show opened.workspace.clock = _ from passed.clock present] at onwards
  have whole : greeted.Adds followed.2.workspace events lines := passed.trans onwards
  have log : followed.2.workspace.log = some closing := by
    rw [whole.log, show greeted.log = _ from kept, Option.map_some]
  have closed : (close followed.2.workspace).log = some closing ∧
      (close followed.2.workspace).printed = greeted.printed ++ printedLines lines ++
        closing.summary := by
    simp [close, log, whole.printed]
  have ended_eq : ended = (followed.1.failure?, { followed.2 with
      workspace := close followed.2.workspace, stopped := true }) :=
    watch_eq surroundings config script begun
  rw [ended_eq]
  refine ⟨rfl, closed.1, closed.2, fun reported => ?_⟩
  cases ending : followed.1 with
  | failed failure => exact absurd ending (fails reported failure)
  | finished => rfl
  | interrupted => rfl

/-- The history of a session that is interrupted between batches only, whose first pass succeeds and
whose passes all report their failures, whatever its log keeps of it. The summary closes what is
printed, it shows the numbers of the history, and they balance. -/
theorem history_of_watch {script : List Batch} {workspace done : Workspace} {result : PassResult}
    (whole : ∀ batch ∈ script, batch.cut = none)
    (begun : first surroundings config workspace = (.ok result, done))
    (reported : ∀ moment ∈ moments surroundings config script done.files,
      moment.outcome.any escapes = false) :
    ∃ generated history lines, generated.kind = .routesGenerated ∧
      Chronicle config (Batch.delivered script) history ∧ (∀ line ∈ lines, StatusLine line) ∧
      let events := generated :: history
      let count (kind : EventKind) := (events.map Event.kind).count kind
      count .pagesChanged + 1 = count .routesGenerated + count .generationFailed ∧
      ∀ capacity : Option Nat,
        let ended := watch surroundings config script
          { workspace with log := some (EventLog.empty capacity) }
        ended.1 = none ∧ ended.2.stopped = true ∧
          ended.2.workspace.log = some (events.foldl EventLog.append (EventLog.empty capacity)) ∧
          ended.2.workspace.printed = workspace.printed ++
            Banner.text config .watch surroundings.terminal ++ printedLines lines ++
            ("\n".intercalate (["", EventLog.rule EventLog.ruleWidth,
              "  " ++ EventLog.counted (count .pagesChanged) "change batch" "es" ++ ", " ++
                EventLog.counted (count .routesGenerated) "pass" "es" ++ " written"] ++
              if count .generationFailed = 0 then []
              else
                ("  " ++ EventLog.counted (count .generationFailed) "failed pass" "es" ++
                  ", latest:") ::
                ((EventLog.newest capacity events).filterMap
                  EventLog.failureLine).reverse.take 3) ++ "\n") := by
  let generated : Event := .routesGenerated config.pagesPath.toString result.outputPath.toString
    result.fileCount result.byteCount result.duration (workspace.clock + 1 : Nat)
  let course := moments surroundings config script done.files
  let history := historyOf config course (workspace.clock + 1)
  have chronicle : Chronicle config (Batch.delivered script) history :=
    chronicle_moments (workspace.clock + 1) whole reported
  refine ⟨generated, history, passLines (.ok result) ++ course.flatMap (Moment.lines config), rfl,
    chronicle, fun line printed => ?_, ?_, fun capacity => ?_⟩
  · rcases List.mem_append.1 printed with printed | printed
    · exact statusLine_of_passLines printed
    · obtain ⟨moment, _, printed⟩ := List.mem_flatMap.1 printed
      exact statusLine_of_moment config printed
  · have balanced := chronicle.balanced
    have kind : generated.kind = .routesGenerated := rfl
    simp only [List.map_cons, kind, List.count_cons_self, ne_eq, reduceCtorEq, not_false_eq_true,
      List.count_cons_of_ne]
    omega
  · intro ended
    obtain ⟨left, begins, files⟩ := first_of_files begun
      (rfl : { workspace with log := some (EventLog.empty capacity) }.files = workspace.files)
    obtain ⟨stopped, log, printed, unfailed⟩ := adds_watch surroundings config whole begins rfl
    rw [files] at log printed unfailed
    rw [EventLog.summary_of_capacity] at printed
    exact ⟨unfailed reported, stopped, log, printed⟩

/-- The pages directory is modified, which is passed over, and then removed, which is reported and
answered with one pass. The log keeps one event, and the summary counts all three. -/
theorem history_of_watch_with_removed_pages :
    let surroundings : Surroundings := ⟨[], ⟨Number.Real.zero⟩, ⟨none, none, false⟩⟩
    let config : Config :=
      ⟨Path.root, "p", "out/router.tsx", "react-router-dom", by decide, by decide⟩
    let workspace : Workspace :=
      ⟨FileTree.empty.edit [] (.directory (Path.ofString "/p")), 0, none, ""⟩
    let modified : Batch := ⟨[], [(.modified, "/p")], [], false, false, none⟩
    let removed : Batch :=
      ⟨[.remove (Path.ofString "/p")], [(.deleted, "/p")], [], true, false, none⟩
    ∃ written failed : Nat, written + failed = 2 ∧ ∃ (before : String) (failures : List String),
      (watch surroundings config [modified, removed] { workspace with
          log := some (EventLog.empty (some 1)) }).2.workspace.printed =
        before ++ ("\n".intercalate (["", EventLog.rule 41,
          "  " ++ "1 change batch" ++ ", " ++ EventLog.counted written "pass" "es" ++ " written"] ++
            failures) ++ "\n") := by
  intro surroundings config workspace modified removed
  obtain ⟨result, done, begun, same⟩ :=
    exists_first_eq_ok (show (first surroundings config workspace).1.isOk = true by decide +kernel)
  have reported : (moments surroundings config [modified, removed] done.files).all
      (fun moment => moment.outcome.any escapes = false) = true := by
    rw [same]
    decide +kernel
  obtain ⟨generated, history, lines, generates, chronicle, _, balanced, runs⟩ :=
    history_of_watch surroundings config (by simp [modified, removed]) begun
      fun moment member => of_decide_eq_true (List.all_eq_true.1 reported moment member)
  obtain ⟨_, _, _, printed⟩ := runs (some 1)
  have changes : (history.map Event.kind).count .pagesChanged = 1 := by
    -- Only the second batch has page changes, so the history is that of one handled batch.
    change Chronicle config [modified, removed] history at chronicle
    cases chronicle with
    | handled matters => exact absurd (by decide +kernel) matters
    | passedOver _ rest =>
      cases rest with
      | passedOver matters => exact absurd matters (by decide +kernel)
      | handled _ announces ended rest =>
        cases rest
        rcases ended with ended | ended <;> simp [announces.kind, ended]
  have counted : ((generated :: history).map Event.kind).count .pagesChanged = 1 := by
    rw [List.map_cons, generates, List.count_cons_of_ne (by decide), changes]
  simp only [counted] at balanced printed
  have noun : EventLog.counted 1 "change batch" "es" = "1 change batch" := by decide +kernel
  rw [noun] at printed
  exact ⟨_, _, balanced.symm, _, _, printed⟩

end Generation

end PageRoutes
