import PageRoutes.Proofs.Generation.Events

/-! What a pass leaves behind besides the files: events in the log and lines on the terminal.

A workspace only ever gains events and lines, so what a longer run leaves is put together from
what its steps leave. Main statement: a batch of page changes adds its own event and then the
event of its pass, and it prints the changes, the pass, and a failure that the pass reports.
-/

set_option autoImplicit false

namespace PageRoutes

def printedLines (lines : List String) : String := String.join (lines.map fun line => line ++ "\n")

namespace Workspace

@[simp] theorem clock_say (workspace : Workspace) (line : String) :
    (workspace.say line).clock = workspace.clock := rfl

/-- A workspace that has gained some events, one for each tick of its clock, and some lines. -/
structure Adds (before after : Workspace) (events : List Event) (lines : List String) : Prop where
  log : after.log = before.log.map fun log => events.foldl EventLog.append log
  clock : before.log.isSome = true → after.clock = before.clock + events.length
  printed : after.printed = before.printed ++ printedLines lines

namespace Adds

theorem nothing {before after : Workspace} (log : after.log = before.log)
    (clock : after.clock = before.clock) (printed : after.printed = before.printed) :
    before.Adds after [] [] :=
  ⟨by simp [log], fun _ => clock, by simp [printed, printedLines]⟩

theorem say (workspace : Workspace) (line : String) :
    workspace.Adds (workspace.say line) [] [line] :=
  ⟨by simp, fun _ => rfl, by simp [Workspace.say, printedLines, String.append_assoc]⟩

theorem record (workspace : Workspace) (event : Nat → Event) :
    workspace.Adds (workspace.record event) [event (workspace.clock + 1)] [] := by
  refine ⟨Generation.log_record _ _, fun kept => ?_, ?_⟩
  · obtain ⟨log, kept⟩ := Option.isSome_iff_exists.1 kept
    simp [Workspace.record, kept]
  · unfold Workspace.record
    split <;> simp [printedLines]

variable {before middle after : Workspace} {early late : List Event}
  {earlyLines lateLines : List String}

theorem isSome_log (first : before.Adds middle early earlyLines) :
    middle.log.isSome = before.log.isSome := by
  rw [first.log, Option.isSome_map]

theorem trans (first : before.Adds middle early earlyLines)
    (second : middle.Adds after late lateLines) :
    before.Adds after (early ++ late) (earlyLines ++ lateLines) := by
  refine ⟨?_, fun kept => ?_, ?_⟩
  · rw [second.log, first.log, Option.map_map]
    simp [Function.comp_def, List.foldl_append]
  · rw [second.clock (first.isSome_log.trans kept), first.clock kept, List.length_append,
      Nat.add_assoc]
  · rw [second.printed, first.printed, String.append_assoc]
    simp [printedLines, String.join_append]

end Adds

end Workspace

namespace Generation

open Workspace

variable (surroundings : Surroundings) (config : Config)

def passLines (outcome : Except PassFailure PassResult) : List String :=
  "  Generating routes..." :: match outcome with
    | .ok result => [doneLine result.fileCount result.outputPath result.duration]
    | .error _ => []

def complaint (outcome : Except PassFailure PassResult) : List String :=
  match outcome with
  | .ok _ => []
  | .error failure =>
    (failure.report?.map fun (_, message) => "  Generation error: " ++ message).toList

def roundLines (changes : List PageChange) (outcome : Except PassFailure PassResult) :
    List String :=
  changes.map changeLine ++ passLines outcome ++ complaint outcome

def roundEvents (changes : List PageChange) (outcome : Except PassFailure PassResult)
    (clock : Nat) : List Event :=
  changedEvent changes (clock + 1) :: (eventOf? config outcome (clock + 2)).toList

theorem adds_abort (failure : PassFailure) (workspace : Workspace) :
    workspace.Adds (abort config failure workspace).2
      (eventOf? config (.error failure) (workspace.clock + 1)).toList [] := by
  simp only [abort, eventOf?]
  cases failure.report? with
  | none => exact .nothing rfl rfl rfl
  | some report =>
    exact .record workspace fun time =>
      .generationFailed config.pagesPath.toString report.1 report.2 time

theorem adds_pass (workspace : Workspace) :
    let result := pass surroundings config false workspace
    workspace.Adds result.2 (eventOf? config result.1 (workspace.clock + 1)).toList
      (passLines result.1) := by
  have begun := Adds.say workspace "  Generating routes..."
  simp only [pass, passOn, Bool.false_eq_true, if_false]
  split
  · rename_i failure _
    have failed := begun.trans (adds_abort config (.discovery failure) _)
    simpa [(abort_eq config _ _).1, passLines] using failed
  · rename_i sources _
    have written : workspace.Adds { (workspace.say "  Generating routes...") with
        files := (StagedWrite.runOn (.plain surroundings.start) workspace.files config.outputPath
          (RoutesModule.render surroundings.workingDirectory sources config)).tree } []
        ["  Generating routes..."] := ⟨begun.log, begun.clock, begun.printed⟩
    split
    · rename_i failure _
      have failed := written.trans (adds_abort config (.write failure) _)
      simpa [(abort_eq config _ _).1, passLines] using failed
    · rename_i count _
      exact (written.trans (.record _ _)).trans (.say _ _)

theorem adds_announce (changes : List PageChange) (workspace : Workspace) :
    workspace.Adds (changes.foldl (fun workspace change => workspace.say (changeLine change))
      workspace) [] (changes.map changeLine) := by
  induction changes generalizing workspace with
  | nil => exact .nothing rfl rfl rfl
  | cons change rest ih => exact (Adds.say _ _).trans (ih _)

/-- A batch adds its own event and the one of its pass, and it prints what becomes of it. -/
theorem adds_regenerate (changes : List PageChange) {workspace : Workspace}
    (kept : workspace.log.isSome = true) :
    let outcome := (attempt surroundings config workspace.files).1
    workspace.Adds (regenerate surroundings config changes workspace).2
      (roundEvents config changes outcome workspace.clock) (roundLines changes outcome) := by
  intro attempted
  let announced := changes.foldl (fun workspace change => workspace.say (changeLine change))
    (workspace.record (changedEvent changes))
  have recorded : workspace.Adds announced [changedEvent changes (workspace.clock + 1)]
      (changes.map changeLine) :=
    (Adds.record workspace (changedEvent changes)).trans (adds_announce changes _)
  have files : announced.files = workspace.files := by
    simp only [announced, files_announce, files_record]
  have outcome := (pass_eq_attempt surroundings config false announced).1
  have handled := recorded.trans (adds_pass surroundings config announced)
  rw [recorded.clock kept, outcome, files] at handled
  rw [files] at outcome
  simp only [regenerate, regenerateOn, roundEvents, roundLines]
  split
  · rename_i result done passes
    change pass surroundings config false announced = _ at passes
    rw [passes] at handled outcome
    simpa [attempted, ← outcome, complaint] using handled
  · rename_i failure done fails
    change pass surroundings config false announced = _ at fails
    rw [fails] at handled outcome
    cases reported : failure.report? with
    | none => simpa [attempted, ← outcome, complaint, reported] using handled
    | some report =>
      have complained := handled.trans (.say done ("  Generation error: " ++ report.2))
      simpa [attempted, ← outcome, complaint, reported] using complained

end Generation

end PageRoutes
