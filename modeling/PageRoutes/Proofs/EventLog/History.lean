import Mathlib.Data.List.DropRight
import PageRoutes.EventLog.Basic
import PageRoutes.Proofs.FirstOccurrences

/-! A log read as the history of what was appended to it.

Whatever the capacity, a log keeps the newest events of its history and counts all of them. Main
statement: every question that a log answers is answered from the history alone, the kept events
by the part that the capacity leaves of it and the counts by the whole.
-/

set_option autoImplicit false

namespace PageRoutes.EventLog

/-- What a capacity leaves of a history, oldest event first. -/
def newest (capacity : Option Nat) (history : List Event) : List Event :=
  match capacity with
  | some bound => history.rtake bound
  | none => history

def IsAsked (kind : Option EventKind) (event : Event) : Prop := ∀ wanted ∈ kind, event.kind = wanted

instance (kind : Option EventKind) (event : Event) : Decidable (IsAsked kind event) :=
  inferInstanceAs (Decidable (∀ wanted ∈ kind, event.kind = wanted))

/-- The kinds of a history where each comes first, and how often each comes. -/
def tally (history : List Event) : List (EventKind × Nat) :=
  (history.map Event.kind).eraseDups.map fun kind => (kind, (history.map Event.kind).count kind)

variable (capacity : Option Nat) (history : List Event)

theorem newestFirst_of_history :
    (history.foldl append (empty capacity)).newestFirst = (newest capacity history).reverse := by
  rw [newestFirst_foldl_append]
  cases capacity with
  | none => rfl
  | some bound => rw [keep, newest, List.rtake_eq_reverse_take_reverse, List.reverse_reverse]

theorem length_newest :
    (newest capacity history).length =
      capacity.elim history.length fun bound => min bound history.length := by
  cases capacity with
  | none => rfl
  | some bound => simp [newest, List.rtake_eq_reverse_take_reverse]

theorem newest_suffix : newest capacity history <:+ history := by
  cases capacity with
  | none => exact List.suffix_refl _
  | some bound => exact List.drop_suffix _ _

theorem countKind_map {kind : EventKind} {kinds : List EventKind} {count : EventKind → Nat}
    (unique : kinds.Nodup) (fresh : kind ∉ kinds → count kind = 0) :
    countKind kind (kinds.map fun kind => (kind, count kind)) =
      (if kind ∈ kinds then kinds else kinds ++ [kind]).map fun other =>
        (other, count other + if other = kind then 1 else 0) := by
  induction kinds with
  | nil => simp [countKind, fresh]
  | cons first rest ih =>
    obtain ⟨apart, unique⟩ := List.nodup_cons.1 unique
    by_cases same : first = kind
    · subst same
      have others : ∀ other ∈ rest, other ≠ first := fun other member =>
        ne_of_mem_of_not_mem member apart
      simp +contextual [countKind, others]
    · have fresh : kind ∉ rest → count kind = 0 := fun absent =>
        fresh (by simp [absent, Ne.symm same])
      rw [List.map_cons, countKind, if_neg same, ih unique fresh]
      by_cases member : kind ∈ rest <;> simp [member, same, Ne.symm same]

theorem counts_of_history : (history.foldl append (empty capacity)).counts = tally history := by
  induction history using List.reverseRecOn with
  | nil => rfl
  | append_singleton history event ih =>
    have fresh : event.kind ∉ (history.map Event.kind).eraseDups →
        (history.map Event.kind).count event.kind = 0 := fun absent =>
      List.count_eq_zero.2 fun member => absent (List.mem_eraseDups.2 member)
    rw [List.foldl_append, List.foldl_cons, List.foldl_nil, append]
    simp only [ih, tally]
    rw [countKind_map (nodup_eraseDups _) fresh, List.map_append, List.map_singleton,
      eraseDups_concat]
    simp only [List.mem_eraseDups, List.count_append, List.count_singleton, beq_iff_eq]
    simp only [eq_comm]

theorem lookup_map (kinds : List EventKind) (count : EventKind → Nat) (kind : EventKind) :
    (kinds.map fun kind => (kind, count kind)).lookup kind =
      if kind ∈ kinds then some (count kind) else none := by
  induction kinds with
  | nil => rfl
  | cons first rest ih =>
    rw [List.map_cons, List.lookup_cons, ih]
    by_cases same : kind = first
    · simp [same]
    · simp [beq_eq_false_iff_ne.2 same, same]

theorem count_of_history (kind : EventKind) :
    (history.foldl append (empty capacity)).count kind = (history.map Event.kind).count kind := by
  rw [count, counts_of_history, tally, lookup_map]
  by_cases member : kind ∈ history.map Event.kind
  · rw [if_pos (List.mem_eraseDups.2 member), Option.getD_some]
  · rw [if_neg fun listed => member (List.mem_eraseDups.1 listed), Option.getD_none,
      List.count_eq_zero.2 member]

/-- The events that a log gives, its size and its counts, for every history of appended events.
A limit at least as large as the log is none. -/
theorem answers_of_history (kind : Option EventKind) (limit : Int) (more : Nat) :
    let log := history.foldl append (empty capacity)
    log.query kind limit =
        ((newest capacity history).reverse.filter fun event => IsAsked kind event).take
          (max limit 0).toNat ∧
      log.size = (capacity.elim history.length fun bound => min bound history.length) ∧
      log.counts = (history.map Event.kind).eraseDups.map (fun kind =>
        (kind, (history.map Event.kind).count kind)) ∧
      (log.counts.map Prod.snd).sum = history.length ∧
      (log.query none (log.size + more)).length = log.size := by
  intro log
  have kept : log.newestFirst = (newest capacity history).reverse :=
    newestFirst_of_history capacity history
  have counted : log.counts = tally history := counts_of_history capacity history
  refine ⟨?_, ?_, counted, ?_, ?_⟩
  · have limited : limit.toNat = (max limit 0).toNat := by omega
    rw [query, kept, limited]
    cases kind <;> simp [IsAsked]
  · rw [size, kept, List.length_reverse, length_newest]
  · rw [counted, tally, List.map_map]
    exact (sum_count_eraseDups _).trans (List.length_map _)
  · have all : (log.size + more : Int).toNat = log.newestFirst.length + more := by
      rw [size]
      omega
    rw [query, all]
    simp [size]

end PageRoutes.EventLog
