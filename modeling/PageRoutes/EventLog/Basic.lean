import PageRoutes.EventLog.Event

/-! A log that keeps the newest events and counts all of them.

The capacity bounds what is kept, not what is counted; without a capacity every event is
kept. Kinds are counted in the order in which they first appear.
-/

set_option autoImplicit false

namespace PageRoutes

def countKind (kind : EventKind) : List (EventKind × Nat) → List (EventKind × Nat)
  | [] => [(kind, 1)]
  | (other, count) :: rest =>
    if other = kind then (other, count + 1) :: rest else (other, count) :: countKind kind rest

structure EventLog where
  capacity : Option Nat
  newestFirst : List Event
  counts : List (EventKind × Nat)

namespace EventLog

def empty (capacity : Option Nat) : EventLog := ⟨capacity, [], []⟩

def standardCapacity : Nat := 1000

/-- An empty log for a bound that may be missing; a negative bound is refused. -/
def ofBound? : Option Int → Option EventLog
  | none => some (empty none)
  | some (.ofNat bound) => some (empty (some bound))
  | some (.negSucc _) => none

def negativeBoundMessage : String := "maxlen must be non-negative"

def standard : EventLog := empty (some standardCapacity)

def keep (capacity : Option Nat) (newestFirst : List Event) : List Event :=
  match capacity with
  | some bound => newestFirst.take bound
  | none => newestFirst

def append (log : EventLog) (event : Event) : EventLog :=
  { log with
    newestFirst := keep log.capacity (event :: log.newestFirst)
    counts := countKind event.kind log.counts }

def size (log : EventLog) : Nat := log.newestFirst.length

def count (log : EventLog) (kind : EventKind) : Nat := (log.counts.lookup kind).getD 0

def query (log : EventLog) (kind : Option EventKind) (limit : Int) : List Event :=
  (log.newestFirst.filter fun event =>
    match kind with
    | some wanted => event.kind = wanted
    | none => true).take limit.toNat

def defaultLimit : Int := 100

@[simp] theorem capacity_append (log : EventLog) (event : Event) :
    (log.append event).capacity = log.capacity := rfl

theorem keep_keep_cons (capacity : Option Nat) (event : Event) (events : List Event) :
    keep capacity (event :: keep capacity events) = keep capacity (event :: events) := by
  cases capacity with
  | none => rfl
  | some bound =>
    cases bound with
    | zero => rfl
    | succ bound => simp [keep, List.take_take]

theorem newestFirst_foldl_append (capacity : Option Nat) (history : List Event) :
    (history.foldl append (empty capacity)).newestFirst = keep capacity history.reverse := by
  suffices general : ∀ (log : EventLog) (seen : List Event), log.capacity = capacity →
      log.newestFirst = keep capacity seen →
      (history.foldl append log).newestFirst = keep capacity (history.reverse ++ seen) by
    simpa using general (empty capacity) [] rfl (by cases capacity <;> simp [empty, keep])
  induction history with
  | nil => intro log seen _ kept; simpa using kept
  | cons event rest ih =>
    intro log seen bound kept
    rw [List.foldl_cons, ih (log.append event) (event :: seen) bound
      (by simp [append, bound, kept, keep_keep_cons])]
    simp

end EventLog

end PageRoutes
