/-
The end of a registry. A disposal first marks the registry, from which
moment no new call gets anywhere; then it goes through the entries that
were cached at that time, waits in line for the lock of each, so that
programs under way run to their end, and closes the session it finds;
and last it empties the cache. A second disposal finds the mark and has
nothing to do.
-/
import InstrumentBus.Registry

namespace InstrumentBus

/-- How far a disposal has got. `todo` are the entries still to be
drained. -/
inductive Disposal where
  -- about to mark the registry
  | mark
  -- about to list the cached entries
  | list
  -- about to ask for the lock of the next entry
  | next (todo : List EntryId)
  -- in the queue for the lock of an entry
  | queued (e : EntryId) (todo : List EntryId)
  -- holds the lock; about to close the session
  | close (e : EntryId) (todo : List EntryId)
  -- holds the lock; about to release it
  | unlock (e : EntryId) (todo : List EntryId)
  -- about to empty the cache
  | clear
  | ended
  | dropped
  deriving DecidableEq, Repr

namespace Disposal

/-- The entry whose lock a disposal holds, going by its stage. -/
def lockHeld : Disposal → Option EntryId
  | .close e _ | .unlock e _ => some e
  | .mark | .list | .next _ | .queued _ _ | .clear | .ended | .dropped => none

variable {β : Type}

/-- The disposal can take a step. -/
def enabled (id : TaskId) (d : Disposal) (x : Site β) : Bool :=
  match d with
  | .queued e _ => x.registry.holds e id
  | .ended | .dropped => false
  | _ => true

variable [RawBus β]

/-- The next step of a disposal, when it can take one. -/
def step (id : TaskId) (d : Disposal) (x : Site β) : Option (Disposal × Site β) :=
  match d with
  | .mark =>
    if x.registry.disposed then some (.ended, x)
    else some (.list, x.modifyRegistry fun r => { r with disposed := true })
  | .list => some (.next (x.registry.cache.map (·.2)), x)
  | .next [] => some (.clear, x)
  | .next (e :: todo) =>
    let x := x.modifyRegistry (·.modifyLock e (·.request id))
    some (if x.registry.holds e id then .close e todo else .queued e todo, x)
  | .queued e todo => if x.registry.holds e id then some (.close e todo, x) else none
  | .close e todo => some (.unlock e todo, x.closeSlot e)
  | .unlock e todo => some (.next todo, x.modifyRegistry (·.modifyLock e (·.release)))
  | .clear => some (.ended, x.discard)
  | .ended | .dropped => none

omit [RawBus β] in
/-- A disposal dropped where it stands. The registry stays marked, and the
entries not yet drained stay as they are. -/
def drop (id : TaskId) (d : Disposal) (x : Site β) : Disposal × Site β :=
  match d with
  | .ended | .dropped => (d, x)
  | .queued e _ => (.dropped, x.modifyRegistry (·.modifyLock e (·.withdraw id)))
  | d =>
    match lockHeld d with
    | some e => (.dropped, x.modifyRegistry (·.modifyLock e (·.release)))
    | none => (.dropped, x)

end Disposal

end InstrumentBus
