/-
Giving up sessions that nobody has used for a while.

A sweep takes a list of the cached entries and judges them one by one. It
never waits: an entry whose lock is not free is skipped. An entry that
has been idle for the threshold or longer first leaves the cache and then
has its session closed, so that nobody finds an entry whose session is
being torn down. Every entry that leaves the cache counts, whether or not
it held a session.

The background sweep (`Ticker`) sweeps once per interval. The interval
starts when the ticker first runs, and there is no sweep at the start
itself. A ticker that runs late keeps its rhythm, unless it is so late
that the next interval had better count from now.
-/
import InstrumentBus.Registry

namespace InstrumentBus

/-- How far a sweep has got. -/
inductive SweepStage where
  -- about to list the cached entries
  | list
  -- about to try the lock of the next entry
  | next
  -- holds the lock of an entry; about to judge it
  | judge (a : Address) (e : EntryId)
  -- holds the lock; about to take the entry out of the cache
  | unlink (a : Address) (e : EntryId)
  -- holds the lock; about to close the session
  | close (e : EntryId)
  -- holds the lock; about to release it
  | unlock (e : EntryId)
  | ended
  deriving DecidableEq, Repr

/-- One pass over the cached entries. -/
structure Sweep where
  -- when the entries were listed
  began : Instant
  -- the entries still to be looked at
  todo : List (Address × EntryId)
  -- how many entries have left the cache
  evicted : Nat
  stage : SweepStage
  deriving DecidableEq, Repr

namespace Sweep

/-- A sweep that has done nothing yet. -/
def new : Sweep := ⟨0, [], 0, .list⟩

/-- The entry whose lock a sweep holds, going by its stage. -/
def lockHeld : SweepStage → Option EntryId
  | .judge _ e | .unlink _ e | .close e | .unlock e => some e
  | .list | .next | .ended => none

variable {β : Type} [RawBus β]

/-- The next step of a sweep, unless it is over. -/
def step (id : TaskId) (s : Sweep) (x : Site β) : Option (Sweep × Site β) :=
  match s.stage with
  | .list => some ({ s with began := x.clock, todo := x.registry.cache, stage := .next }, x)
  | .next =>
    match s.todo with
    | [] => some ({ s with stage := .ended }, x)
    | (a, e) :: rest =>
      match (x.registry.entryAt? e).bind (·.lock.take? id) with
      | some lock =>
        some ({ s with todo := rest, stage := .judge a e },
          x.modifyRegistry (·.modifyLock e fun _ => lock))
      | none => some ({ s with todo := rest }, x)
  | .judge a e =>
    if (x.registry.idle e s.began).nanos < x.registry.policy.idleThreshold.nanos then
      some ({ s with stage := .unlock e }, x)
    else some ({ s with stage := .unlink a e }, x)
  | .unlink a e => some ({ s with stage := .close e }, x.modifyRegistry (·.forget a e))
  | .close e => some ({ s with evicted := s.evicted + 1, stage := .unlock e }, x.closeSlot e)
  | .unlock e => some ({ s with stage := .next }, x.modifyRegistry (·.modifyLock e (·.release)))
  | .ended => none

end Sweep

/-- How far the background sweep has got. -/
inductive TickerStage where
  | fresh
  | sleeping (wake : Instant)
  -- it sweeps, and its next interval counts from an instant
  | sweeping (s : Sweep) (mark : Instant)
  | ended
  deriving DecidableEq, Repr

namespace Ticker

/-- When the ticker is due that was last due at an instant, or has its
start there: one interval later, or, where that instant cannot be named,
as late as a sleep that begins now can end. -/
def next (last now : Instant) (interval : Duration) : Instant :=
  (Clock.after? last interval).getD (now + Clock.longestSleep.nanos)

/-- How late the ticker may run without losing its rhythm. -/
def leeway : Duration := .ofMillis 5

/-- What the next interval counts from for a ticker that was due at an
instant and runs now: the instant it was due, or, where it comes too late
for that, now. -/
def rhythm (due now : Instant) : Instant := if due + leeway.nanos < now then now else due

variable {β : Type}

/-- The ticker can take a step. -/
def enabled (t : TickerStage) (x : Site β) : Bool :=
  match t with
  | .fresh => true
  | .sleeping wake => x.registry.disposed || wake ≤ x.clock
  | .sweeping _ _ => true
  | .ended => false

/-- When the ticker goes on by itself. -/
def wake : TickerStage → Option Instant
  | .sleeping wake => some wake
  | _ => none

variable [RawBus β]

/-- The next step of the ticker, when it can take one. It stops when it
finds the registry disposed of. -/
def step (id : TaskId) (t : TickerStage) (x : Site β) : Option (TickerStage × Site β) :=
  let next (last : Instant) := next last x.clock x.registry.policy.sweepInterval
  match t with
  | .fresh => some (.sleeping (next x.clock), x)
  | .sleeping wake =>
    if x.registry.disposed then some (.ended, x)
    else if wake ≤ x.clock then some (.sweeping .new (rhythm wake x.clock), x)
    else none
  | .sweeping s mark =>
    match s.step id x with
    | some (s, x) => some (.sweeping s mark, x)
    | none => some (.sleeping (next mark), x)
  | .ended => none

end Ticker

end InstrumentBus
