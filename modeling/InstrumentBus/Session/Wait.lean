/-
Waiting for an instrument to become ready, by polling it.

A wait polls at once, then once per interval, and for a last time when
its budget has run out; the last pause is cut short so that this poll
falls on the deadline itself. It ends with the first poll that shows the
condition or fails, with `Failure.waitTimeout` when the poll at the
deadline does not show it, and with `Failure.cancelled` when its token is
cancelled — a cancelled wait makes no further poll, even where the token
and the timer fire together. A token that is cancelled while the wait
pauses, be it at the instant of the first poll, is noticed after that
poll; one that was cancelled beforehand keeps even the first from being
made.

A wait is a value: `Wait.begin?` makes one, `Wait.poll` lets it poll once
and says either how it ended or when it wants to poll again, and
`Wait.resumed` is the wait as it is found after a pause. Whoever runs it
supplies the clock.
-/
import InstrumentBus.Clock
import InstrumentBus.Session

namespace InstrumentBus

/-- What a wait waits for. -/
inductive Condition where
  | message
  | service
  deriving DecidableEq, Repr, Inhabited

namespace Condition

/-- The name of the wait for a condition. -/
def operation : Condition → String
  | .message => "WaitForMessage"
  | .service => "WaitForServiceRequest"

/-- One poll for a condition. -/
def poll {β : Type} [RawBus β] (c : Condition) (s : Session) : Exchange β Bool :=
  match c with
  | .message => s.messageAvailable
  | .service => s.serviceRequested

end Condition

/-- How a caller wants to wait. -/
structure Pace where
  interval : Duration
  budget : Duration
  cancelled : Bool
  -- after how long the token is cancelled, if ever
  cancelAfter : Option Duration
  deriving DecidableEq, Repr, Inhabited

/-- A wait under way. -/
structure Wait where
  condition : Condition
  interval : Duration
  budget : Duration
  -- when the budget runs out, unless that is past the clock's horizon
  deadline : Option Instant
  cancelled : Bool
  -- when the token is cancelled, if ever
  cancelAt : Option Instant
  deriving DecidableEq, Repr, Inhabited

namespace Wait

/-- What a wait does after a poll. -/
inductive Verdict where
  | done (result : Except Failure Unit)
  -- it wants to poll again at an instant, or only to be cancelled
  | again (wake : Option Instant)

/-- A wait about to make its first poll. An interval of no length is a
misuse. -/
def begin? (c : Condition) (p : Pace) (now : Instant) : Except Failure Wait :=
  if p.interval.isZero then .error (.invalidArgument .zeroInterval)
  else
    .ok { condition := c, interval := p.interval, budget := p.budget
          deadline := Clock.after? now p.budget
          cancelled := p.cancelled
          cancelAt := p.cancelAfter.map fun d => now + d.nanos }

/-- The wait after a pause: its token has been cancelled if the time for
that has come. -/
def resumed (w : Wait) (now : Instant) : Wait :=
  { w with cancelled := w.cancelled || w.cancelAt.any (· ≤ now) }

/-- The budget of the wait has run out. -/
def expired (w : Wait) (now : Instant) : Bool :=
  match w.deadline with
  | some d => d ≤ now
  | none => false

/-- When the wait polls after a poll made now. -/
def next (w : Wait) (now : Instant) : Option Instant :=
  Clock.earlier (Clock.after? now w.interval) w.deadline

/-- The wait lets a poll be made, unless it has been cancelled. -/
def poll {β : Type} [RawBus β] (w : Wait) (s : Session) (now : Instant) : StateM β Verdict := do
  if w.cancelled then return .done (.error (.cancelled w.condition.operation))
  match ← (w.condition.poll s).run with
  | .error e => return .done (.error e)
  | .ok true => return .done (.ok ())
  | .ok false =>
    if w.expired now then return .done (.error (.waitTimeout w.condition.operation w.budget))
    return .again (w.next now)

end Wait

end InstrumentBus
