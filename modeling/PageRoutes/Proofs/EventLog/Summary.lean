import PageRoutes.EventLog.Summary
import PageRoutes.Proofs.EventLog.History

/-! The summary of a session, read off everything that happened in it.

The number of failures is counted over the whole session, but only failures that the log still
keeps can be named. Main statement: the summary names the latest failures, newest first, up to
three of them and no more than are among the newest thousand events.
-/

set_option autoImplicit false

namespace PageRoutes.EventLog

theorem isSome_failureLine_iff (event : Event) :
    (failureLine event).isSome = true ↔ event.kind = .generationFailed := by
  cases event <;> simp [failureLine, Event.kind]

theorem length_filterMap_failureLine (history : List Event) :
    (history.filterMap failureLine).length = (history.map Event.kind).count .generationFailed := by
  rw [List.length_filterMap_eq_countP, List.count, List.countP_map]
  refine List.countP_congr fun event _ => ?_
  rw [isSome_failureLine_iff, Function.comp_apply, beq_iff_eq]

theorem filterMap_take {α β : Type} {choose : α → Option β} {items : List α} (limit : Nat)
    (chosen : ∀ item ∈ items, (choose item).isSome = true) :
    (items.take limit).filterMap choose = (items.filterMap choose).take limit := by
  induction items generalizing limit with
  | nil => simp
  | cons item rest ih =>
    cases limit with
    | zero => rfl
    | succ limit =>
      obtain ⟨found, choice⟩ := Option.isSome_iff_exists.1 (chosen item List.mem_cons_self)
      rw [List.take_succ_cons, List.filterMap_cons_some choice, List.filterMap_cons_some choice,
        List.take_succ_cons,
        ih limit fun other member => chosen other (List.mem_cons_of_mem _ member)]

theorem filterMap_failures (events : List Event) :
    (events.filter fun event => event.kind = .generationFailed).filterMap failureLine =
      events.filterMap failureLine := by
  rw [List.filterMap_filter]
  refine List.filterMap_congr fun event _ => ?_
  cases event <;> rfl

/-- The failures that a log names are the latest of those among the events that it keeps. -/
theorem named_of_history (capacity : Option Nat) (history : List Event) (limit : Nat) :
    ((history.foldl append (empty capacity)).query (some .generationFailed) limit).filterMap
        failureLine =
      ((newest capacity history).filterMap failureLine).reverse.take limit := by
  have failed : ∀ event ∈ (newest capacity history).reverse.filter fun event =>
      event.kind = .generationFailed, (failureLine event).isSome = true := by
    intro event member
    exact (isSome_failureLine_iff event).2 (of_decide_eq_true (List.mem_filter.1 member).2)
  rw [query, newestFirst_of_history, filterMap_take _ failed, filterMap_failures,
    List.filterMap_reverse]
  rfl

theorem take_kept_failures (capacity : Option Nat) (history : List Event) (limit : Nat) :
    let kept := (newest capacity history).filterMap failureLine
    kept.reverse.take limit =
      (history.filterMap failureLine).reverse.take (min kept.length limit) := by
  intro kept
  obtain ⟨older, split⟩ := newest_suffix capacity history
  have failures : history.filterMap failureLine = older.filterMap failureLine ++ kept := by
    rw [← List.filterMap_append, split]
  have enough : min kept.length limit ≤ kept.reverse.length := by
    rw [List.length_reverse]
    exact Nat.min_le_left _ _
  rw [failures, List.reverse_append, List.take_append_of_le_length enough, Nat.min_comm,
    ← List.length_reverse, ← List.take_eq_take_min]

/-- The numbers in a summary are those of the whole history, whatever the log keeps of it. -/
theorem summary_of_capacity (capacity : Option Nat) (history : List Event) :
    let kinds := history.map Event.kind
    let failed := kinds.count .generationFailed
    (history.foldl append (empty capacity)).summary =
      "\n".intercalate (["", rule ruleWidth,
        "  " ++ counted (kinds.count .pagesChanged) "change batch" "es" ++ ", " ++
          counted (kinds.count .routesGenerated) "pass" "es" ++ " written"] ++
        if failed = 0 then []
        else ("  " ++ counted failed "failed pass" "es" ++ ", latest:") ::
          ((newest capacity history).filterMap failureLine).reverse.take 3) ++ "\n" := by
  intro kinds failed
  have lines : ((history.foldl append (empty capacity)).query (some .generationFailed)
      namedFailures).filterMap failureLine =
        ((newest capacity history).filterMap failureLine).reverse.take 3 :=
    named_of_history capacity history 3
  rw [summary, summaryLines, failureLines, lines]
  simp only [count_of_history, kinds, failed]

/-- The summary of a session counts every failure of it. It names the latest ones, newest first:
three of them, or as many as there are among the newest events that the log keeps, which in a
short session are all. -/
theorem summary_of_history (history : List Event) :
    let kinds := history.map Event.kind
    let failures := history.filterMap failureLine
    let kept := ((newest (some standardCapacity) history).map Event.kind).count .generationFailed
    let named := failures.reverse.take (min kept 3)
    failures.length = kinds.count .generationFailed ∧ named.length = min kept 3 ∧
      (history.length ≤ standardCapacity → kept = failures.length) ∧
      (history.foldl append standard).summary =
        "\n".intercalate (["", rule ruleWidth,
          "  " ++ counted (kinds.count .pagesChanged) "change batch" "es" ++ ", " ++
            counted (kinds.count .routesGenerated) "pass" "es" ++ " written"] ++
          if failures = [] then []
          else ("  " ++ counted failures.length "failed pass" "es" ++ ", latest:") :: named) ++
            "\n" := by
  intro kinds failures kept named
  have failed : failures.length = kinds.count .generationFailed :=
    length_filterMap_failureLine history
  have lines : ((newest (some standardCapacity) history).filterMap failureLine).reverse.take 3 =
      named := by
    rw [take_kept_failures, length_filterMap_failureLine]
  have fewer : kept ≤ failures.length := by
    rw [failed]
    exact ((newest_suffix _ history).sublist.map _).count_le _
  have named_length : named.length = min kept 3 := by
    rw [List.length_take, List.length_reverse]
    omega
  refine ⟨failed, named_length, fun short => ?_, ?_⟩
  · have length : (newest (some standardCapacity) history).length = history.length := by
      rw [length_newest]
      exact Nat.min_eq_right short
    rw [failed]
    simp only [kept, kinds, (newest_suffix _ history).eq_of_length length]
  · rw [standard, summary_of_capacity, lines]
    simp only [← List.length_eq_zero_iff, failed, kinds]

/-- A failure that a thousand other events have followed is counted, but it is not named. -/
theorem failure_behind_thousand_events :
    ¬ ∀ history : List Event,
      let failures := history.filterMap failureLine
      failures ≠ [] → (history.foldl append standard).failureLines =
        ("  " ++ counted failures.length "failed pass" "es" ++ ", latest:") ::
          failures.reverse.take 3 := by
  intro claimed
  let failed : Event := .generationFailed "/p" .write "disk full" 1
  let changed : Event := .pagesChanged "/p/a.tsx" 1 0 2
  let history := failed :: List.replicate standardCapacity changed
  have silent : (List.replicate standardCapacity changed).filterMap failureLine = [] :=
    List.filterMap_replicate_of_none rfl
  have failures : history.filterMap failureLine = ["    [write] disk full"] := by
    simp [history, failed, silent, failureLine, Stage.label]
  have kept : newest (some standardCapacity) history = List.replicate standardCapacity changed := by
    rw [newest, List.rtake_eq_reverse_take_reverse]
    simp [history]
  have named := named_of_history (some standardCapacity) history 3
  rw [kept, silent] at named
  have lines := claimed history (by simp [failures])
  have counted : (history.foldl append standard).count .generationFailed ≠ 0 := by
    rw [standard, count_of_history, ← length_filterMap_failureLine, failures]
    decide
  rw [failureLines, if_neg counted] at lines
  simp only [failures, List.cons.injEq] at lines
  exact absurd (named.symm.trans lines.2) (by simp)

end PageRoutes.EventLog
