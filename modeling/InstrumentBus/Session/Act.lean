/-
What can be asked of a session, one request at a time, and how a request
is carried out against a clock.

Most acts are over as soon as they are begun. The others — sleeping,
waiting for an instrument, and the query that waits for its answer — may
have to pause; what is left of them is then a `Pending`, which knows when
it wants to go on. A list of acts is a `Program`: it is carried out in
order until one fails, and it pauses where its current act does.

Carrying out an act never looks at any other session, and between two
pauses nothing else happens on the bus.
-/
import InstrumentBus.Session.Wait

namespace InstrumentBus

/-- A request to a session. -/
inductive Act where
  | write (command : String)
  | writeBytes (data : List UInt8)
  | readBytes (capacity : Nat)
  | read
  | readAs (kind : ResponseKind)
  | query (command : String) (kind : ResponseKind)
  | queryAsync (command : String) (kind : ResponseKind) (pace : Pace)
  | serialPoll
  | messageAvailable
  | serviceRequested
  | await (condition : Condition) (pace : Pace)
  | clear
  | close
  | version
  | setTerminator (terminator : Terminator)
  | info
  | label
  | sleep (length : Duration)
  -- a failure in the caller's own words
  | fail (text : String)
  deriving DecidableEq, Repr, Inhabited

/-- The answer to a request. -/
inductive Reply where
  | nothing
  | value (v : Response)
  | byte (b : StatusByte)
  | flag (b : Bool)
  | buffer (count : Nat) (bytes : List UInt8)
  | text (s : String)
  | session (s : Session)
  deriving DecidableEq, Repr, Inhabited

/-- What is left of an act that pauses. -/
inductive Pending where
  | sleep (wake : Instant)
  -- a wait that polls again at an instant, or only waits to be
  -- cancelled; then, for a query, a message is read
  | await (wait : Wait) (wake : Option Instant) (thenRead : Option ResponseKind)
  deriving DecidableEq, Repr, Inhabited

namespace Pending

/-- When a paused act goes on by itself, if ever. -/
def wake : Pending → Option Instant
  | .sleep wake => some wake
  | .await wait wake _ => Clock.earlier wake wait.cancelAt

/-- A paused act can go on. -/
def due (p : Pending) (now : Instant) : Bool :=
  match p.wake with
  | some t => t ≤ now
  | none => false

end Pending

/-- How far an act has got. -/
inductive Progress where
  | done (result : Except Failure Reply)
  | paused (pending : Pending)

/-- A session together with the driver it is on. -/
abbrev Line (β : Type) := Session × β

namespace Act

variable {β : Type} [RawBus β]

/-- An exchange carried out on a session. -/
def exchange (x : Session → Exchange β Reply) : StateM (Line β) Progress := do
  let (s, bus) ← get
  let (result, bus) := (x s).run bus
  set (s, bus)
  return .done result

/-- What follows a wait: nothing, or the reading of a message. -/
def conclude (thenRead : Option ResponseKind) : StateM (Line β) Progress :=
  match thenRead with
  | none => return .done (.ok .nothing)
  | some kind => exchange fun s => .value <$> s.readAs kind

/-- One poll of a wait, and what follows it. -/
def pollOnce (w : Wait) (now : Instant) (thenRead : Option ResponseKind) :
    StateM (Line β) Progress := do
  let (s, bus) ← get
  let (verdict, bus) := (w.poll s now).run bus
  set (s, bus)
  match verdict with
  | .done (.ok ()) => conclude thenRead
  | .done (.error e) => return .done (.error e)
  | .again wake => return .paused (.await w wake thenRead)

/-- A wait begun. -/
def startWait (c : Condition) (p : Pace) (now : Instant) (thenRead : Option ResponseKind) :
    StateM (Line β) Progress :=
  match Wait.begin? c p now with
  | .ok w => pollOnce w now thenRead
  | .error e => return .done (.error e)

/-- An act begun. -/
def start (a : Act) (now : Instant) : StateM (Line β) Progress :=
  match a with
  | .write command => exchange fun s => (fun _ => .nothing) <$> s.write command
  | .writeBytes data => exchange fun s => (fun _ => .nothing) <$> s.writeBytes data
  | .readBytes capacity => exchange fun s => (fun r => .buffer r.1 r.2) <$> s.readBytes capacity
  | .read => exchange fun s => (fun t => .value (.text t)) <$> s.read
  | .readAs kind => exchange fun s => .value <$> s.readAs kind
  | .query command kind => exchange fun s => .value <$> s.query command kind
  | .queryAsync command kind pace => do
    match ← exchange fun s => (fun _ => .nothing) <$> s.write command with
    | .done (.ok _) => startWait .message pace now (some kind)
    | stopped => return stopped
  | .serialPoll => exchange fun s => .byte <$> s.serialPoll
  | .messageAvailable => exchange fun s => .flag <$> s.messageAvailable
  | .serviceRequested => exchange fun s => .flag <$> s.serviceRequested
  | .await condition pace => startWait condition pace now none
  | .clear => exchange fun s => (fun _ => .nothing) <$> s.clear
  | .close => do
    let (s, bus) ← get
    set (s.close bus)
    return .done (.ok .nothing)
  | .version => exchange fun _ => do return .text (RawBus.version (← get))
  | .setTerminator t => do
    modify fun (s, bus) => (s.setTerminator t, bus)
    return .done (.ok .nothing)
  | .info => exchange fun s => return .session s
  | .label => exchange fun s => return .text s.label
  | .sleep d =>
    if d.isZero then return .done (.ok .nothing)
    else return .paused (.sleep (Clock.sleepEnd now d))
  | .fail text => return .done (.error (.invalidArgument (.other text)))

/-- A paused act taken up again. -/
def resume (p : Pending) (now : Instant) : StateM (Line β) Progress :=
  match p with
  | .sleep _ => return .done (.ok .nothing)
  | .await w _ thenRead => pollOnce (w.resumed now) now thenRead

end Act

/-- A list of acts to be carried out in order. -/
abbrev Program := List Act

/-- How far a program has got, and the answers since it was last taken
up. -/
inductive Advance where
  -- it is over; the failure, if any, is that of its last act
  | done (replies : List Reply) (result : Except Failure Unit)
  -- its current act pauses; `rest` comes after it
  | paused (replies : List Reply) (pending : Pending) (rest : Program)

/-- An advance that began with another answer. -/
def Advance.after (r : Reply) : Advance → Advance
  | .done replies result => .done (r :: replies) result
  | .paused replies pending rest => .paused (r :: replies) pending rest

namespace Program

variable {β : Type} [RawBus β]

/-- A program carried out until it pauses or is over. -/
def run (now : Instant) : Program → StateM (Line β) Advance
  | [] => return .done [] (.ok ())
  | a :: rest => do
    match ← a.start now with
    | .done (.ok r) => return .after r (← run now rest)
    | .done (.error e) => return .done [] (.error e)
    | .paused pending => return .paused [] pending rest

/-- A paused program taken up again. -/
def resume (now : Instant) (pending : Pending) (rest : Program) : StateM (Line β) Advance := do
  match ← Act.resume pending now with
  | .done (.ok r) => return .after r (← run now rest)
  | .done (.error e) => return .done [] (.error e)
  | .paused pending => return .paused [] pending rest

end Program

end InstrumentBus
