/-
One use of the registry: a program carried out with exclusive access to
the session of an address.

# The stages of a call

A call looks up the entry of its address, gets in line for the entry's
lock, and once it holds it looks again: the registry may have been
disposed of meanwhile, and the entry may have left the cache, in which
case the call starts over. Then it makes sure of an open session and
carries out its program. However the program ends, the lock is released,
and the entry counts as used from when the program started and from when
it ended.

Each stage is one atomic step (`Call.step`), and other tasks may take
steps between any two. A call is stuck in only two stages: in the queue
for the lock, until it is handed the lock or its token is cancelled; and
in its program, while that pauses.

A call's token matters only until the lock is obtained: a cancelled call
leaves the queue, even if it was handed the lock and has not noticed. A
call may also be dropped by its owner wherever it stands (`Call.drop`).
-/
import InstrumentBus.Registry
import InstrumentBus.Session.Act

namespace InstrumentBus

/-- How far a call has got. -/
inductive CallStage where
  -- about to ask whether the registry is in use
  | check
  -- about to look up the entry of the address
  | find
  -- about to ask for the lock of an entry
  | request (e : EntryId)
  -- in the queue for the lock of an entry
  | queued (e : EntryId)
  -- holds the lock; about to ask again whether the registry is in use
  | recheck (e : EntryId)
  -- holds the lock; about to ask whether the entry is still current
  | confirm (e : EntryId)
  -- holds the lock; about to make sure of a session
  | fill (e : EntryId)
  -- holds the lock and has a session; about to start the program
  | enter (e : EntryId)
  -- holds the lock; the program pauses
  | acting (e : EntryId) (pending : Pending) (rest : Program)
  -- holds the lock; about to close what is in the slot
  | vacate (e : EntryId) (failure : Failure)
  -- holds the lock; about to take the entry out of the cache
  | abandon (e : EntryId) (failure : Failure)
  -- holds the lock; about to release it
  | leave (e : EntryId) (result : Except Failure Unit)
  | ended (result : Except Failure Unit)
  | dropped

/-- One use of the registry. -/
structure Call where
  address : Address
  program : Program
  cancelled : Bool
  -- when the program was started, and on which descriptor
  entered : Option (Instant × Int)
  replies : List Reply
  stage : CallStage

namespace Call

/-- A call that has done nothing yet. -/
def new (address : Address) (program : Program) : Call :=
  ⟨address, program, false, none, [], .check⟩

/-- What a call is told that was cancelled before it got the lock. -/
def lockCancelled (a : Address) : Failure := .cancelled ("lock " ++ a.text)

/-- What a call is told once the registry has been disposed of. -/
def registryClosed : Failure := .useAfterClose "session registry"

/-- The entry whose lock a call holds, going by its stage. -/
def lockHeld : CallStage → Option EntryId
  | .recheck e | .confirm e | .fill e | .enter e | .acting e _ _ | .vacate e _ | .abandon e _
  | .leave e _ => some e
  | .check | .find | .request _ | .queued _ | .ended _ | .dropped => none

/-- A call that will take no further step. -/
def isOver (c : Call) : Bool :=
  match c.stage with
  | .ended _ | .dropped => true
  | _ => false

/-- The outcome of a call that is over and was not dropped. -/
def outcome? (c : Call) : Option (Except Failure Unit) :=
  match c.stage with
  | .ended result => some result
  | _ => none

variable {β : Type}

/-- The call can take a step. -/
def enabled (id : TaskId) (c : Call) (x : Site β) : Bool :=
  match c.stage with
  | .queued e => c.cancelled || x.registry.holds e id
  | .acting _ pending _ => pending.due x.clock
  | .ended _ | .dropped => false
  | _ => true

/-- When a call goes on by itself. -/
def wake (c : Call) : Option Instant :=
  match c.stage with
  | .acting _ pending _ => pending.wake
  | _ => none

variable [RawBus β]

/-- Part of a program carried out on the session in the slot of an entry. -/
def act (c : Call) (e : EntryId) (s : Session) (x : Site β) (run : StateM (Line β) Advance) :
    Call × Site β :=
  let (advance, s, bus) := run.run (s, x.bus)
  let x := { x with bus := bus, registry := x.registry.setSlot e (some s) }
  match advance with
  | .paused replies pending rest =>
    ({ c with replies := c.replies ++ replies, stage := .acting e pending rest }, x)
  | .done replies result =>
    ({ c with replies := c.replies ++ replies, stage := .leave e result },
      x.modifyRegistry (·.touch e x.clock))

/-- The next step of a call, when it can take one. -/
def step (id : TaskId) (c : Call) (x : Site β) : Option (Call × Site β) :=
  match c.stage with
  | .check =>
    if x.registry.disposed then some ({ c with stage := .ended (.error registryClosed) }, x)
    else some ({ c with stage := .find }, x)
  | .find =>
    let (r, e) := x.registry.resolve c.address x.clock
    some ({ c with stage := .request e }, { x with registry := r })
  | .request e =>
    if c.cancelled then
      some ({ c with stage := .ended (.error (lockCancelled c.address)) }, x)
    else
      let x := x.modifyRegistry (·.modifyLock e (·.request id))
      some ({ c with stage := if x.registry.holds e id then .recheck e else .queued e }, x)
  | .queued e =>
    if c.cancelled then
      some ({ c with stage := .ended (.error (lockCancelled c.address)) },
        x.modifyRegistry (·.modifyLock e (·.withdraw id)))
    else if x.registry.holds e id then some ({ c with stage := .recheck e }, x)
    else none
  | .recheck e =>
    some ({ c with
      stage := if x.registry.disposed then .vacate e registryClosed else .confirm e }, x)
  | .confirm e =>
    if x.registry.isCurrent c.address e then some ({ c with stage := .fill e }, x)
    else some ({ c with stage := .check }, x.modifyRegistry (·.modifyLock e (·.release)))
  | .fill e =>
    match x.fillSlot c.address e with
    | (x, .ok ()) => some ({ c with stage := .enter e }, x)
    | (x, .error f) => some ({ c with stage := .abandon e f }, x)
  | .enter e =>
    let x := x.modifyRegistry (·.touch e x.clock)
    match x.registry.slot? e with
    | some s =>
      some ({ c with entered := some (x.clock, s.descriptor) }.act e s x
        (Program.run x.clock c.program))
    | none => some ({ c with stage := .leave e (.error registryClosed) }, x)
  | .acting e pending rest =>
    if pending.due x.clock then
      match x.registry.slot? e with
      | some s => some (c.act e s x (Program.resume x.clock pending rest))
      | none => some ({ c with stage := .leave e (.error registryClosed) }, x)
    else none
  | .vacate e f => some ({ c with stage := .abandon e f }, x.closeSlot e)
  | .abandon e f =>
    some ({ c with stage := .leave e (.error f) }, x.modifyRegistry (·.forget c.address e))
  | .leave e result =>
    some ({ c with stage := .ended result }, x.modifyRegistry (·.modifyLock e (·.release)))
  | .ended _ | .dropped => none

omit [RawBus β] in
/-- A call dropped where it stands: it gives up its place in the queue, or
the lock. The session, if any, stays where it is. -/
def drop (id : TaskId) (c : Call) (x : Site β) : Call × Site β :=
  match c.stage with
  | .ended _ | .dropped => (c, x)
  | .queued e => ({ c with stage := .dropped }, x.modifyRegistry (·.modifyLock e (·.withdraw id)))
  | stage =>
    match lockHeld stage with
    | some e =>
      ({ c with stage := .dropped }, x.modifyRegistry (·.modifyLock e (·.release)))
    | none => ({ c with stage := .dropped }, x)

end Call

end InstrumentBus
