/-
A driver that keeps a record of the calls made on it and is otherwise the
driver it wraps. What a session does to a bus is stated through this
record: for each call, what was asked, the descriptor an open was
answered with, and the registers the call left behind.
-/
import InstrumentBus.Bus

namespace InstrumentBus

/-- One call, as it was recorded. -/
structure RawRecord where
  call : RawCall
  -- the descriptor an open was answered with
  answer : Option Int
  registers : Registers
  deriving DecidableEq, Repr

/-- A driver state with the calls made so far, the latest first. -/
structure Recorded (β : Type) where
  bus : β
  -- the calls made so far, the latest first
  trace : List RawRecord

namespace Recorded

/-- A driver on which nothing has been called yet. -/
def fresh {β : Type} (bus : β) : Recorded β := ⟨bus, []⟩

/-- The calls made so far, in order. -/
def calls {β : Type} (r : Recorded β) : List RawCall := (r.trace.map (·.call)).reverse

/-- A call put on record, with the state it left the driver in. -/
def note {β : Type} [RawBus β] (r : Recorded β) (bus : β) (call : RawCall)
    (answer : Option Int) : Recorded β :=
  ⟨bus, ⟨call, answer, RawBus.registers bus⟩ :: r.trace⟩

instance {β : Type} [RawBus β] : RawBus (Recorded β) where
  openDevice r request :=
    let (bus, d) := RawBus.openDevice r.bus request
    (r.note bus (.openDevice request) (some d), d)
  takeOffline r d value := r.note (RawBus.takeOffline r.bus d value) (.takeOffline d value) none
  write r d data := r.note (RawBus.write r.bus d data) (.write d data) none
  read r d buffer :=
    let (bus, buffer') := RawBus.read r.bus d buffer
    (r.note bus (.read d buffer.length) none, buffer')
  clear r d := r.note (RawBus.clear r.bus d) (.clear d) none
  serialPoll r d :=
    let (bus, byte) := RawBus.serialPoll r.bus d
    (r.note bus (.serialPoll d) none, byte)
  discover r board probes buffer :=
    let (bus, buffer') := RawBus.discover r.bus board probes buffer
    (r.note bus (.discover board probes buffer.length) none, buffer')
  registers r := RawBus.registers r.bus
  errorText r code := RawBus.errorText r.bus code
  version r := RawBus.version r.bus
  pending r := RawBus.pending r.bus
  length_read r d buffer := RawBus.length_read r.bus d buffer
  length_discover r board probes buffer := RawBus.length_discover r.bus board probes buffer
  pending_read r d buffer := RawBus.pending_read r.bus d buffer

end Recorded

end InstrumentBus
