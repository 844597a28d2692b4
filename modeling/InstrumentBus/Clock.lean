/-
Instants and the clock they are read from. An instant is a number of
nanoseconds since the clock was started. Clocks reach far but not
forever: an instant past the horizon cannot be named, and a wait that
would end there has no end.

Timers are coarser than the clock. Whoever sleeps until an instant is
woken at the first full millisecond that is not before it (`Clock.tick`).
Nobody sleeps longer than thirty years for the asking; only a wait, which
has a deadline and not a length, may.
-/
import InstrumentBus.Duration

namespace InstrumentBus

/-- A point in time, in nanoseconds since the clock was started. -/
abbrev Instant := Nat

namespace Clock

/-- The instants that can be named lie below this one. -/
def horizon : Instant := 0x8000000000000000 * Duration.perSecond

/-- The instant a length of time after another, if it can be named. -/
def after? (now : Instant) (d : Duration) : Option Instant :=
  if now + d.nanos < horizon then some (now + d.nanos) else none

/-- The first full millisecond that is not before an instant. -/
def tick (at_ : Instant) : Instant :=
  (at_ + (Duration.perMilli - 1)) / Duration.perMilli * Duration.perMilli

/-- The longest sleep there is: thirty years of 365 days. -/
def longestSleep : Duration := .ofSecs (30 * 365 * 24 * 60 * 60)

/-- When a sleep ends that begins now and is to last a length of time. -/
def sleepEnd (now : Instant) (d : Duration) : Instant := now + min d.nanos longestSleep.nanos

/-- The whole milliseconds up to an instant. -/
def millis (now : Instant) : Nat := now / Duration.perMilli

/-- How long ago an instant was; an instant still to come was no time
ago. -/
def since (now then_ : Instant) : Duration := ⟨now - then_⟩

/-- The earlier of two instants, either of which may be missing. -/
def earlier : Option Instant → Option Instant → Option Instant
  | some a, some b => some (min a b)
  | some a, none => some a
  | none, b => b

end Clock

end InstrumentBus
