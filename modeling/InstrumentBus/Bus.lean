/-
The driver of an instrument bus, as a session sees it.

# Calls and registers

A driver offers a handful of raw calls. Each is atomic, names its device
by a descriptor, and leaves its outcome in the registers; none of them
fails in any other way. `RawBus β` gives these calls on a type `β` of
driver states. A read is handed the caller's buffer and hands it back
with the bytes it received in front; where a driver says it has
received more than it stored, the rest of the buffer is what the caller
put there.

# What is asked of a driver

Three laws, none of which limits what a driver may put into its registers
or into a buffer. A read and a discovery return a buffer of the length
they were given. And a driver holds a finite amount of undelivered data:
`pending` is a bound on it that falls with every read after which there
is reason to read on. So reading a message to its end comes to an end.
-/
import InstrumentBus.EndOfString
import InstrumentBus.Registers
import InstrumentBus.Timeout

namespace InstrumentBus

/-- What the driver is asked for when a session is opened. -/
structure OpenRequest where
  board : Int32
  primary : UInt8
  -- the secondary address, zero when unused
  secondary : UInt8
  timeout : Timeout
  -- the last byte of each write asserts END
  assertEnd : Bool
  endOfString : EndOfString
  deriving DecidableEq, Repr, Inhabited

/-- The word that ends the list of addresses a discovery probes. -/
def noAddress : UInt16 := 0xFFFF

/-- The raw calls of a driver, on a type of driver states. -/
class RawBus (β : Type) where
  -- open a session. A negative descriptor means that it was refused
  openDevice : β → OpenRequest → β × Int
  -- take a descriptor offline (zero) or online (any other value)
  takeOffline : β → Int → Int → β
  write : β → Int → List UInt8 → β
  read : β → Int → List UInt8 → β × List UInt8
  clear : β → Int → β
  serialPoll : β → Int → β × UInt8
  -- look for listeners among the probed words on a board, and put one
  -- word per listener into a buffer
  discover : β → Int32 → List UInt16 → List UInt16 → β × List UInt16
  -- the registers the last call left behind
  registers : β → Registers
  errorText : β → Int → String
  version : β → String
  -- a bound on the data that reads have yet to deliver
  pending : β → Nat
  -- a read returns a buffer of the length it was given
  length_read : ∀ b d buffer, (read b d buffer).2.length = buffer.length
  -- a discovery returns a buffer of the length it was given
  length_discover : ∀ b board probes buffer,
    (discover b board probes buffer).2.length = buffer.length
  -- a read that is to be followed by another delivered something
  pending_read : ∀ b d buffer,
    (registers (read b d buffer).1).unfinished = true →
      pending (read b d buffer).1 < pending b

/-- `data` put into the front of a buffer, as much of it as fits. -/
def fillFront {α : Type} (buffer data : List α) : List α :=
  data.take buffer.length ++ buffer.drop data.length

@[simp] theorem length_fillFront {α : Type} (buffer data : List α) :
    (fillFront buffer data).length = buffer.length := by
  simp only [fillFront, List.length_append, List.length_take, List.length_drop]
  omega

/-- A raw call, as it can be seen from outside the driver. -/
inductive RawCall where
  | openDevice (request : OpenRequest)
  | takeOffline (descriptor value : Int)
  | write (descriptor : Int) (data : List UInt8)
  | read (descriptor : Int) (capacity : Nat)
  | clear (descriptor : Int)
  | serialPoll (descriptor : Int)
  | discover (board : Int32) (probes : List UInt16) (capacity : Nat)
  deriving DecidableEq, Repr

end InstrumentBus
