/-
The registry of open sessions: at most one per address, made when first
needed and kept until nobody has used it for a while.

# Entries and the cache

What is kept for an address is an `Entry`: a slot for the session, the
lock that guards the slot, and the time it was last used. An entry starts
out vacant. The cache maps an address to the entry that is current for
it. An entry that leaves the cache is not gone — tasks may still be
waiting for its lock — so entries are numbered and never forgotten, and a
task that gets hold of an entry's lock asks whether the entry is still
the current one (`Registry.isCurrent`) before it uses it.

# The site

`Site β` is everything the tasks of a program share: the driver, the
clock and the registry. The operations on it in this file are the single
steps from which `Call`, `Sweep` and `Disposal` are put together; each of
them is atomic.
-/
import InstrumentBus.Clock
import InstrumentBus.Keyed
import InstrumentBus.Registry.Lock
import InstrumentBus.Session

namespace InstrumentBus

/-- The number of an entry. -/
abbrev EntryId := Nat

/-- What is kept for an address. -/
structure Entry where
  -- the session, once one has been made
  slot : Option Session
  -- when an action last started or finished, or the entry was made
  lastUsed : Instant
  -- guards the slot
  lock : Lock
  deriving DecidableEq, Repr, Inhabited

/-- An entry made at an instant. -/
def Entry.vacant (now : Instant) : Entry := ⟨none, now, .free⟩

/-- When sessions are given up. -/
structure SweepPolicy where
  idleThreshold : Duration
  -- how often the registry looks for unused sessions; no length means
  -- never
  sweepInterval : Duration
  deriving DecidableEq, Repr, Inhabited

/-- Five minutes unused; looked at once a minute. -/
def SweepPolicy.standard : SweepPolicy := ⟨.ofSecs 300, .ofSecs 60⟩

/-- A registry of sessions that are all opened alike. -/
structure Registry where
  options : SessionOptions
  policy : SweepPolicy
  disposed : Bool
  sweepStarted : Bool
  -- the current entry of each address
  cache : List (Address × EntryId)
  -- every entry ever made, by number
  entries : List Entry
  created : Nat
  deriving DecidableEq, Repr, Inhabited

namespace Registry

/-- A registry that keeps nothing yet. -/
def empty (options : SessionOptions) (policy : SweepPolicy) : Registry :=
  ⟨options, policy, false, false, [], [], 0⟩

/-- The current entry of an address. -/
def current? (r : Registry) (a : Address) : Option EntryId := Keyed.get? r.cache a

/-- The entry is still the current one of its address. -/
def isCurrent (r : Registry) (a : Address) (e : EntryId) : Bool := r.current? a == some e

/-- Whether an address is in the cache. -/
def contains (r : Registry) (a : Address) : Bool := (r.current? a).isSome

/-- How many addresses are in the cache. -/
def size (r : Registry) : Nat := r.cache.length

/-- The entry of a number. -/
def entryAt? (r : Registry) (e : EntryId) : Option Entry := r.entries[e]?

/-- The session in the slot of an entry. -/
def slot? (r : Registry) (e : EntryId) : Option Session := (r.entryAt? e).bind (·.slot)

/-- The registry with an entry changed. -/
def modifyEntry (r : Registry) (e : EntryId) (f : Entry → Entry) : Registry :=
  { r with entries := r.entries.modify e f }

/-- The registry with the lock of an entry changed. -/
def modifyLock (r : Registry) (e : EntryId) (f : Lock → Lock) : Registry :=
  r.modifyEntry e fun entry => { entry with lock := f entry.lock }

/-- A task holds the lock of an entry. -/
def holds (r : Registry) (e : EntryId) (t : TaskId) : Bool :=
  match r.entryAt? e with
  | some entry => entry.lock.holder == some t
  | none => false

/-- The current entry of an address, made vacant if there was none. -/
def resolve (r : Registry) (a : Address) (now : Instant) : Registry × EntryId :=
  match r.current? a with
  | some e => (r, e)
  | none =>
    let e := r.entries.length
    ({ r with cache := Keyed.set r.cache a e, entries := r.entries ++ [.vacant now] }, e)

/-- The cache without an entry. Another entry of the same address stays. -/
def forget (r : Registry) (a : Address) (e : EntryId) : Registry :=
  if r.isCurrent a e then { r with cache := Keyed.erase r.cache a } else r

/-- An entry used now. -/
def touch (r : Registry) (e : EntryId) (now : Instant) : Registry :=
  r.modifyEntry e fun entry => { entry with lastUsed := now }

/-- An entry with another slot. -/
def setSlot (r : Registry) (e : EntryId) (slot : Option Session) : Registry :=
  r.modifyEntry e fun entry => { entry with slot := slot }

/-- How long an entry has gone unused at an instant. -/
def idle (r : Registry) (e : EntryId) (now : Instant) : Duration :=
  match r.entryAt? e with
  | some entry => Clock.since now entry.lastUsed
  | none => .zero

end Registry

/-- Everything the tasks of a program share. -/
structure Site (β : Type) where
  bus : β
  clock : Instant
  registry : Registry

namespace Site

variable {β : Type}

/-- The site with its registry changed. -/
def modifyRegistry (x : Site β) (f : Registry → Registry) : Site β :=
  { x with registry := f x.registry }

variable [RawBus β]

/-- The session in the slot of an entry taken out and closed. -/
def closeSlot (x : Site β) (e : EntryId) : Site β :=
  match x.registry.slot? e with
  | some s =>
    { x with bus := (s.close x.bus).2, registry := x.registry.setSlot e none }
  | none => x

/-- A session for an entry: the open one in its slot, or else a new one
put there. Where the driver refuses, the slot is left empty. -/
def fillSlot (x : Site β) (a : Address) (e : EntryId) : Site β × Except Failure Unit :=
  match (x.registry.slot? e).filter (fun s => !s.closed) with
  | some _ => (x, .ok ())
  | none =>
    let (result, bus) := (Session.connect a x.registry.options).run x.bus
    let r := { x.registry with created := x.registry.created + 1 }
    match result with
    | .ok s => ({ x with bus := bus, registry := r.setSlot e (some s) }, .ok ())
    | .error f => ({ x with bus := bus, registry := r.setSlot e none }, .error f)

/-- The registry let go of by its last user: the sessions it still caches
are closed. -/
def discard (x : Site β) : Site β :=
  (x.registry.cache.foldl (fun x p => x.closeSlot p.2) x).modifyRegistry fun r =>
    { r with cache := [] }

end Site

end InstrumentBus
