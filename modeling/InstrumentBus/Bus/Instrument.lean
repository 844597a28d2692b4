/-
An instrument that answers from a table: a command it knows puts the
answer's bytes and a line feed into its output queue, and reads take them
out again in order. A serial poll shows its status byte, with the
message-available bit added while there is output — though not during the
first few polls after new output, when the instrument pretends to be
still at work.
-/
import InstrumentBus.Keyed
import InstrumentBus.Status.Byte
import InstrumentBus.Text.Latin
import InstrumentBus.Text.Trim
import InstrumentBus.Text.Unicode

namespace InstrumentBus

/-- An instrument that answers from a table. -/
structure Instrument where
  -- the commands it knows, with their answers
  responses : List (String × String)
  output : List UInt8
  -- the bits of its status byte other than message-available
  status : StatusByte
  -- for how many polls new output stays hidden
  pollDelay : Nat
  -- for how many polls the present output stays hidden
  pollsRemaining : Nat
  -- it never asserts END
  suppressEnd : Bool
  -- the writes it received, in order
  written : List (List UInt8)
  deriving DecidableEq, Repr

namespace Instrument

/-- An instrument that knows no command. -/
def silent : Instrument := ⟨[], [], ⟨0⟩, 0, 0, false, []⟩

/-- The instrument that also answers `command` with `response`. -/
def respond (i : Instrument) (command response : String) : Instrument :=
  { i with responses := Keyed.set i.responses command response }

/-- Bytes added to the output queue. Even no bytes start the delay anew. -/
def queue (i : Instrument) (bytes : List UInt8) : Instrument :=
  { i with output := i.output ++ bytes, pollsRemaining := i.pollDelay }

/-- The command that written bytes are: their text without line ending. -/
def commandOf (data : List UInt8) : String :=
  String.ofList (Text.trimEnd Text.isLineEnd (Text.Latin.decode data))

/-- The answer to written bytes, when they are a command it knows. -/
def answer? (i : Instrument) (data : List UInt8) : Option String :=
  Keyed.get? i.responses (commandOf data)

/-- The instrument after a write has reached it. -/
def receive (i : Instrument) (data : List UInt8) : Instrument :=
  let i := { i with written := i.written ++ [data] }
  match i.answer? data with
  | some response => (i.queue (Text.Unicode.encode response.toList)).queue [10]
  | none => i

/-- How many bytes a read of the given capacity transfers. -/
def transferCount (i : Instrument) (capacity : Nat) : Nat := min capacity i.output.length

/-- The instrument after `n` bytes have been read from it. -/
def consume (i : Instrument) (n : Nat) : Instrument := { i with output := i.output.drop n }

/-- A read of the given capacity ends the message: it transfers something
and leaves nothing. -/
def ends (i : Instrument) (capacity : Nat) : Bool :=
  let n := i.transferCount capacity
  n != 0 && n == i.output.length && !i.suppressEnd

/-- The instrument after a device clear. -/
def reset (i : Instrument) : Instrument := { i with output := [], pollsRemaining := 0 }

/-- The status byte a poll shows now. -/
def shown (i : Instrument) : StatusByte :=
  if i.pollsRemaining = 0 ∧ i.output ≠ [] then ⟨i.status.bits ||| StatusByte.mav⟩
  else i.status

/-- The instrument after a poll: a request for service is withdrawn once
it has been shown. -/
def polled (i : Instrument) : Instrument :=
  { i with
    status := ⟨i.status.bits &&& ~~~StatusByte.rqs⟩
    pollsRemaining := i.pollsRemaining - 1 }

end Instrument

end InstrumentBus
