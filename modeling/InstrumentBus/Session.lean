/-
A session: one open connection to one instrument.

# How an operation talks to the driver

Every operation that does I/O makes raw calls and, straight after each,
reads the registers (`checked`). A call that timed out ends the operation
with `Failure.timeout`, and one that failed ends it with
`Failure.hardware`; the driver also reports an error where it reports a
timeout, so the timeout is looked at first. No second call is made before
the registers of the first have been read, and none is made after a call
that went wrong.

An operation is an `Exchange`: a computation that may fail and that
carries the driver's state along, failed or not. A session's own state
changes in two ways only — its terminator can be replaced, and it can be
closed, once — so every other operation leaves it as it is.

# Reading a message

A message arrives in chunks. `read` asks for chunks of `chunkSize` bytes
until one ends the message or is empty, and uses one buffer for all of
them: where a driver reports more than it stored, the bytes an earlier
chunk left in the buffer are taken for received ones. The number of
chunks is bounded by what the driver has pending (`RawBus.pending_read`).
-/
import InstrumentBus.Bus
import InstrumentBus.Failure
import InstrumentBus.Response
import InstrumentBus.Status.Byte
import InstrumentBus.Terminator
import InstrumentBus.Text.Latin

namespace InstrumentBus

/-- A computation on a driver of type `β` that may fail. The driver's
state is carried along either way. -/
abbrev Exchange (β : Type) := ExceptT Failure (StateM β)

/-- What is fixed when a session is opened. The terminator can be changed
later. -/
structure SessionOptions where
  board : Int32
  timeout : Timeout
  terminator : Terminator
  -- the last byte of each write asserts END
  assertEnd : Bool
  endOfString : EndOfString
  deriving DecidableEq, Repr, Inhabited

/-- Board 0, ten seconds, line feeds, END on writes, no end-of-string
handling. -/
def SessionOptions.standard : SessionOptions := ⟨0, .standard, .standard, true, .disabled⟩

/-- One open connection to one instrument. -/
structure Session where
  -- the driver's name for the session
  descriptor : Int
  address : Address
  board : Int32
  timeout : Timeout
  terminator : Terminator
  closed : Bool
  deriving DecidableEq, Repr, Inhabited

namespace Session

variable {β : Type} [RawBus β]

-- ============================================ opening and closing

/-- What the driver is asked for. -/
def request (a : Address) (o : SessionOptions) : OpenRequest :=
  ⟨o.board, a.primary, a.secondary, o.timeout, o.assertEnd, o.endOfString⟩

/-- A session opened to an address. A negative descriptor is a refusal. -/
def connect (a : Address) (o : SessionOptions) : Exchange β Session := do
  let (bus, d) := RawBus.openDevice (← get) (request a o)
  set bus
  if d < 0 then throw (.openRefused a o.board d)
  return ⟨d, a, o.board, o.timeout, o.terminator, false⟩

/-- The session closed, with its descriptor taken offline unless that has
been done before. What the driver says to it is not looked at. -/
def close (s : Session) (bus : β) : Session × β :=
  if s.closed then (s, bus) else ({ s with closed := true }, RawBus.takeOffline bus s.descriptor 0)

/-- The session with another terminator. -/
def setTerminator (s : Session) (t : Terminator) : Session := { s with terminator := t }

-- ======================================= looking at the registers

/-- The status word of the raw call just made, or what went wrong with
it. -/
def checked (operation : String) (command : Option (List UInt8)) : Exchange β StatusWord := do
  let bus ← get
  let r := RawBus.registers bus
  let text := command.map fun data => String.ofList (Text.Latin.decode data)
  if r.status.timedOut then throw (.timeout operation text r.status r.error)
  if r.status.failed then
    throw (.hardware operation text r.status r.error (RawBus.errorText bus r.error))
  return r.status

/-- Nothing is done through a closed session. -/
def ensureOpen (s : Session) : Exchange β Unit := do
  if s.closed then throw (.useAfterClose "device session")

-- ========================================================= writing

/-- The bytes a text command is sent as. -/
def payload (s : Session) (command : String) : List UInt8 :=
  Text.Latin.encode command.toList ++ s.terminator.bytes

/-- A text command written, with the terminator after it. -/
def write (s : Session) (command : String) : Exchange β Unit := do
  s.ensureOpen
  if command = "" then throw (.invalidArgument .emptyCommand)
  let data := s.payload command
  modify fun bus => RawBus.write bus s.descriptor data
  let _ ← checked "Write" (some data)

/-- Bytes written as they are. No bytes make no call. -/
def writeBytes (s : Session) (data : List UInt8) : Exchange β Unit := do
  s.ensureOpen
  unless data.isEmpty do
    modify fun bus => RawBus.write bus s.descriptor data
    let _ ← checked "WriteBytes" none

-- ========================================================= reading

/-- How many bytes a message is asked for at a time. -/
def chunkSize : Nat := 1024

/-- One raw read into a buffer: the buffer after it, the count the driver
reports, and the status word. -/
def transfer (s : Session) (operation : String) (buffer : List UInt8) :
    Exchange β (List UInt8 × Nat × StatusWord) := do
  let (bus, buffer) := RawBus.read (← get) s.descriptor buffer
  set bus
  let status ← checked operation none
  return (buffer, (RawBus.registers (← get)).count, status)

/-- One raw read of the given capacity: the count the driver reports, and
the whole buffer. No capacity makes no call. -/
def readBytes (s : Session) (capacity : Nat) : Exchange β (Nat × List UInt8) := do
  s.ensureOpen
  if capacity = 0 then return (0, [])
  let (buffer, count, _) ← s.transfer "ReadBytes" (List.replicate capacity 0)
  return (count, buffer)

/-- The bytes of a message, chunk by chunk, at most `fuel` chunks of
them. `buffer` holds what earlier chunks left. -/
def chunks (s : Session) : Nat → List UInt8 → Exchange β (List UInt8)
  | 0, _ => return []
  | fuel + 1, buffer => do
    let (buffer, count, status) ← s.transfer "Read" buffer
    let part := buffer.take count
    if status.ended || count == 0 then return part
    return part ++ (← s.chunks fuel buffer)

/-- One message, read to its end, without the CR, LF and NUL it ends
with. -/
def read (s : Session) : Exchange β String := do
  s.ensureOpen
  let fuel := RawBus.pending (← get) + 1
  let bytes ← s.chunks fuel (List.replicate chunkSize 0)
  return String.ofList (Text.trimEnd Text.isMessageEnd (Text.Latin.decode bytes))

/-- One message, read as a value. -/
def readAs (s : Session) (kind : ResponseKind) : Exchange β Response := do
  let text ← s.read
  ofExcept (Response.ofText kind text.toList)

/-- A command written and its answer read as a value. -/
def query (s : Session) (command : String) (kind : ResponseKind) : Exchange β Response := do
  s.write command
  s.readAs kind

-- ==================================================== the rest

/-- The status byte of the instrument. -/
def serialPoll (s : Session) : Exchange β StatusByte := do
  s.ensureOpen
  let (bus, byte) := RawBus.serialPoll (← get) s.descriptor
  set bus
  let _ ← checked "SerialPoll" none
  return ⟨byte⟩

/-- Whether the instrument has a message waiting. -/
def messageAvailable (s : Session) : Exchange β Bool := do
  return (← s.serialPoll).messageAvailable

/-- Whether the instrument requests service. -/
def serviceRequested (s : Session) : Exchange β Bool := do
  return (← s.serialPoll).serviceRequested

/-- A device clear. -/
def clear (s : Session) : Exchange β Unit := do
  s.ensureOpen
  modify fun bus => RawBus.clear bus s.descriptor
  let _ ← checked "Clear" none

/-- How a session is shown to a maintainer. -/
def label (s : Session) : String :=
  let d := toString s.descriptor
  let p := toString s.address.primary
  let q := toString s.address.secondary
  let b := toString s.board
  let t := s.timeout.label
  let e := s.terminator.label
  let c := toString s.closed
  "DeviceSession \x7b " ++ s!"descriptor: {d}, " ++
    "address: InstrumentAddress \x7b " ++ s!"primary: {p}, secondary: {q}" ++ " \x7d, " ++
    s!"board_index: {b}, timeout: {t}, terminator: {e}, closed: {c}" ++ " \x7d"

end Session

end InstrumentBus
