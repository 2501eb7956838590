import Mathlib.Data.Finset.Filter
import Mathlib.Data.Finset.Dedup
import PageRoutes.Proofs.Watch.Chronicle

/-! What comes out of the batches of a session.

The changes of a batch are a set, and what comes out of it is a page change for each member that
matters, in the order of the paths. Main statement: none is lost, made up or merged with another,
also where different texts name one path, and the batches that come out of a session are those with
such members, in order and up to the end of the session.
-/

set_option autoImplicit false

namespace PageRoutes

/-- A text comes before another one by its code points. -/
def CodePointsLess (first second : String) : Prop :=
  List.Lex (· < ·) (first.toList.map Char.toNat) (second.toList.map Char.toNat)

theorem not_codePointsLess_of_le {first second : String} (le : first ≤ second) :
    ¬ CodePointsLess second first := by
  have mono : ∀ c d : Char, c < d → c.toNat < d.toNat := fun _ _ less => less
  exact List.map_le mono fun less => le (String.lt_iff.2 less)

namespace PageChange

/-- A pair that matters: something was added or deleted at the pages directory or below it, where
the paths are compared name by name. -/
def Matters (config : Config) (report : RawChange × String) : Prop :=
  report.1 ≠ .modified ∧ (Path.ofString report.2).anchor = config.pagesPath.anchor ∧
    config.pagesPath.names <+: (Path.ofString report.2).names

instance (config : Config) : DecidablePred (Matters config) :=
  fun _ => inferInstanceAs (Decidable (_ ∧ _))

theorem mem_reports_iff {config : Config} {changes : List (RawChange × String)}
    {report : RawChange × String} :
    report ∈ reports config changes ↔ report ∈ changes ∧ Matters config report := by
  rw [reports, List.mem_filter, List.mem_eraseDups, decide_eq_true_iff, Path.IsUnder, Matters,
    eq_comm (a := config.pagesPath.anchor)]

theorem coe_reports (config : Config) (changes : List (RawChange × String)) :
    (reports config changes : Multiset (RawChange × String)) =
      (changes.toFinset.filter (Matters config)).val := by
  -- Neither side repeats a pair, so it is enough that they have the same members.
  have once : (reports config changes).Nodup := List.Nodup.filter _
    ((pairwise_eraseDupsBy _ changes).imp fun apart => (ne_of_beq_false apart).symm)
  refine (Multiset.Nodup.ext (Multiset.coe_nodup.2 once) (Finset.nodup _)).2 fun report => ?_
  rw [Multiset.mem_coe, Finset.mem_val, Finset.mem_filter, List.mem_toFinset, mem_reports_iff]

theorem coe_relevant (config : Config) (changes : List (RawChange × String)) :
    (relevant config changes : Multiset PageChange) =
      (changes.toFinset.filter (Matters config)).val.map ofReport := by
  rw [Multiset.coe_eq_coe.2 (relevant_perm config changes), ← Multiset.map_coe, coe_reports]

end PageChange

namespace Session

/-- The page changes of some batches, without the batches that have none. -/
def outOf (config : Config) (batches : List Batch) : List (List PageChange) :=
  (batches.map fun batch => PageChange.relevant config batch.changes).filter (· ≠ [])

/-- The batches of a script that come out, when so much has come out before. The batch with a stop
is the last, and so is one behind which the consumer has enough of what it was handed. Nothing comes
out of a batch that is interrupted, nor behind it. -/
def comingOut (config : Config) (enough : List (List PageChange) → Bool) :
    List (List PageChange) → List Batch → List Batch
  | _, [] => []
  | handed, batch :: rest =>
    if batch.interrupt then []
    else
      let out := outOf config [batch]
      if batch.stop || (!out.isEmpty && enough (handed ++ out)) then [batch]
      else batch :: comingOut config enough (handed ++ out) rest

/-- A consumer that goes by what it was handed: when it has enough it ends the session or asks for a
stop, and otherwise it does neither. -/
structure Consumer.Stops (consume : Consumer) (enough : List (List PageChange) → Bool) : Prop where
  leaves : ∀ cut changes session, (consume cut changes session).2.delivered = session.delivered
  stops : ∀ cut changes session,
    ((consume cut changes session).1.isSome || (consume cut changes session).2.stopped) =
      (session.stopped || enough session.delivered)

theorem Consumer.stops_collect (stopAfter : Option Nat) :
    (collect stopAfter).Stops fun handed => stopAfter = some handed.length where
  leaves _ _ session := by
    unfold collect
    split <;> rfl
  stops _ _ session := by
    unfold collect
    by_cases last : stopAfter = some session.delivered.length <;> simp [last]

variable {start : Location} {config : Config} {consume : Consumer}
  {enough : List (List PageChange) → Bool}

theorem outOf_cons (config : Config) (batch : Batch) (batches : List Batch) :
    outOf config (batch :: batches) = outOf config [batch] ++ outOf config batches := by
  rw [outOf, outOf, outOf, List.map_cons, List.map_cons, List.map_nil, ← List.filter_append,
    List.singleton_append]

theorem deliver_eq (start : Location) (config : Config) (consumes : consume.Stops enough)
    (batch : Batch) (session : Session) :
    let out := outOf config [batch]
    let handed := deliver consume batch.cut (PageChange.relevant config batch.changes)
      { editFiles start batch session with stopped := batch.stop }
    handed.2.delivered = session.delivered ++ out ∧
      (handed.1.isSome || handed.2.stopped) =
        (batch.stop || (!out.isEmpty && enough (session.delivered ++ out))) := by
  unfold deliver outOf
  by_cases nothing : PageChange.relevant config batch.changes = []
  · simp [nothing, editFiles]
  · simp [nothing, consumes.leaves, consumes.stops, editFiles]

theorem follow_of_stopped (script : List Batch) {session : Session}
    (stopped : session.stopped = true) :
    (follow start config consume script session).2.delivered = session.delivered := by
  cases script with
  | nil => rfl
  | cons batch rest =>
    rw [follow, if_pos stopped]
    rfl

theorem delivered_follow (consumes : consume.Stops enough) (script : List Batch)
    {session : Session} (running : session.stopped = false) :
    (follow start config consume script session).2.delivered =
      session.delivered ++ outOf config (comingOut config enough session.delivered script) := by
  -- The session holds what was handed over before, so the rest is handed over behind it.
  induction script generalizing session with
  | nil => simp [follow, comingOut, outOf]
  | cons batch rest ih =>
    obtain ⟨came, ends⟩ := deliver_eq start config consumes batch session
    rw [follow, if_neg (running ▸ Bool.false_ne_true), comingOut]
    by_cases interrupted : batch.interrupt = true
    · rw [if_pos interrupted, if_pos interrupted]
      simp [editFiles, outOf]
    · rw [if_neg interrupted, if_neg interrupted]
      simp only
      rw [← ends]
      generalize deliver consume batch.cut (PageChange.relevant config batch.changes)
        { editFiles start batch session with stopped := batch.stop } = handed at came ends
      obtain ⟨ending, consumed⟩ := handed
      cases ending with
      | some ending => exact came
      | none =>
        have recorded : (look start batch consumed).delivered =
            session.delivered ++ outOf config [batch] := came
        simp only [Option.isSome_none, Bool.false_or]
        cases stopped : consumed.stopped with
        | true =>
          rw [if_pos rfl, follow_of_stopped rest (show (look start batch consumed).stopped = true from
            stopped), recorded]
        | false =>
          rw [if_neg Bool.false_ne_true, ih (show (look start batch consumed).stopped = false from
            stopped), recorded, outOf_cons config batch (comingOut _ _ _ _), List.append_assoc]

/-- What comes out of a set of raw changes, and of a session. A set gives one page change for each
member that matters, sorted by the code points of the paths. A session hands over the sets of its
batches that are not empty, in order, up to a stop or an interrupt, or until its consumer has
enough. One that is stopped already hands over nothing. -/
theorem delivered_of_run (config : Config) (consumes : consume.Stops enough) (start : Location)
    (debounce : Int) (script : List Batch) (session : Session) :
    (∀ changes : List (RawChange × String),
      (PageChange.relevant config changes).Pairwise (fun first second =>
        ¬ CodePointsLess second.path.toString first.path.toString) ∧
      (PageChange.relevant config changes : Multiset PageChange) =
        (changes.toFinset.filter (PageChange.Matters config)).val.map PageChange.ofReport) ∧
    (run start config debounce consume script session).2.delivered = session.delivered ++
      if session.stopped then []
      else outOf config (comingOut config enough session.delivered script) := by
  refine ⟨fun changes => ⟨(PageChange.pairwise_relevant config changes).imp
    not_codePointsLess_of_le, PageChange.coe_relevant config changes⟩, ?_⟩
  let observed := session.observe (.watching config.pagesPath debounce standardStep)
  have same : observed.stopped = session.stopped := rfl
  change (follow start config consume script observed).2.delivered = _
  cases stopped : session.stopped with
  | true =>
    rw [follow_of_stopped script (same.trans stopped), if_pos rfl, List.append_nil]
    rfl
  | false =>
    rw [delivered_follow consumes script (same.trans stopped), if_neg Bool.false_ne_true]
    rfl

/-- Two texts name one file, which is created twice, and a directory with a longer name is no pages
directory. In the session a batch with a modification alone is passed over, and nothing comes out
behind the second batch that does, with which the consumer has enough. -/
theorem delivered_of_collected_run :
    let config : Config :=
      ⟨Path.ofString "/x", "pages", "router.tsx", "react-router-dom", by decide, by decide⟩
    let changes := [(.added, "/x/pages2/a.tsx"), (.deleted, "/x/pages"), (.added, "/x/pages/b.tsx"),
      (.added, "/x//pages/./b.tsx")]
    let batch (change : RawChange) (path : String) : Batch :=
      ⟨[], [(change, path)], [], false, false, none⟩
    let script := [batch .added "/x/pages/b.tsx", batch .modified "/x/pages/b.tsx",
      batch .deleted "/x/pages", batch .added "/x/pages/b.tsx"]
    let session := Session.ofWorkspace ⟨FileTree.empty, 0, none, ""⟩ false
    let file := Path.ofString "/x/pages/b.tsx"
    (collect (some 2)).Stops (fun handed => some 2 = some handed.length) ∧
      (PageChange.relevant config changes : Multiset PageChange) =
        ↑([⟨config.pagesPath, .deleted⟩, ⟨file, .created⟩, ⟨file, .created⟩] : List PageChange) ∧
      (run [] config standardDebounce (collect (some 2)) script session).2.delivered =
        [[⟨file, .created⟩], [⟨config.pagesPath, .deleted⟩]] := by
  intro config changes batch script session file
  have consumes := Consumer.stops_collect (some 2)
  obtain ⟨sets, delivered⟩ :=
    delivered_of_run config consumes [] standardDebounce script session
  refine ⟨consumes, ?_, ?_⟩
  · rw [(sets changes).2]
    decide +kernel
  · rw [delivered]
    decide +kernel

end Session

end PageRoutes
