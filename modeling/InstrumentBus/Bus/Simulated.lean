/-
A bus in memory. Instruments are attached to it by address, sessions are
opened to addresses whether or not an instrument is there, and faults can
be put in the way of the calls to come: each fault replaces the outcome
of one write, read, clear or serial poll, oldest first, and such a call
reaches no instrument.

The order in which a call fails is the driver's: first a waiting fault,
then a descriptor that is not online, then an address nobody answers at.
-/
import InstrumentBus.Bus
import InstrumentBus.Bus.Instrument
import InstrumentBus.Failure

namespace InstrumentBus

/-- What a fault leaves in the registers. -/
structure Fault where
  status : StatusWord
  error : Int
  deriving DecidableEq, Repr, Inhabited

/-- A session as the bus knows it. -/
structure Link where
  -- where the session was opened to
  address : Address
  -- whether it can be used
  online : Bool
  deriving DecidableEq, Repr, Inhabited

/-- A bus in memory. -/
structure Simulated where
  instruments : List (Address × Instrument)
  -- the sessions opened so far, by descriptor
  links : List (Int × Link)
  nextDescriptor : Int
  -- every open is refused
  failOpen : Bool
  -- the faults waiting, oldest first
  faults : List Fault
  -- how often each descriptor was taken offline or online
  offlineCounts : List (Int × Nat)
  -- what discoveries report instead of the attached instruments
  discovery : Option (List UInt16 × Nat)
  registers : Registers
  deriving DecidableEq, Repr

namespace Simulated

/-- A bus with nothing attached. -/
def empty : Simulated := ⟨[], [], 16, false, [], [], none, .clear⟩

-- ================================================ setting the stage

/-- An instrument put at an address, in place of the one there. -/
def attach (b : Simulated) (a : Address) (i : Instrument) : Simulated :=
  { b with instruments := Keyed.set b.instruments a i }

/-- The instrument at an address changed, if there is one. -/
def modifyInstrument (b : Simulated) (a : Address) (f : Instrument → Instrument) : Simulated :=
  { b with instruments := Keyed.modify f b.instruments a }

/-- Bytes put into the output queue of the instrument at an address. -/
def pushOutput (b : Simulated) (a : Address) (bytes : List UInt8) : Simulated :=
  b.modifyInstrument a (·.queue bytes)

/-- The status bits of the instrument at an address replaced. -/
def setStatus (b : Simulated) (a : Address) (status : StatusByte) : Simulated :=
  b.modifyInstrument a fun i => { i with status }

/-- A fault put behind those already waiting. -/
def injectFault (b : Simulated) (f : Fault) : Simulated := { b with faults := b.faults ++ [f] }

/-- The fault of a call that times out. -/
def timeoutFault : Fault := ⟨⟨StatusWord.timo ||| StatusWord.err⟩, DriverCode.eabo.raw⟩

/-- The fault of a call that fails with a driver error. -/
def errorFault (code : DriverCode) : Fault := ⟨⟨StatusWord.err⟩, code.raw⟩

-- ==================================================== looking at it

/-- How often a descriptor was taken offline or online. -/
def offlineCount (b : Simulated) (d : Int) : Nat := (Keyed.get? b.offlineCounts d).getD 0

/-- How often any descriptor was. -/
def totalOffline (b : Simulated) : Nat := Keyed.total id b.offlineCounts

/-- How many sessions are online. -/
def onlineSessions (b : Simulated) : Nat := (b.links.filter (·.2.online)).length

/-- The writes received at an address. -/
def writtenAt (b : Simulated) (a : Address) : List (List UInt8) :=
  match Keyed.get? b.instruments a with
  | some i => i.written
  | none => []

/-- The addresses of the attached instruments, in ascending order. -/
def attached (b : Simulated) : List Address := Address.sort (Keyed.keys b.instruments)

-- ==================================================== the raw calls

/-- The bus after a call that completed and transferred `count`. -/
def complete (b : Simulated) (count : Nat) : Simulated := { b with registers := .completed count }

/-- The bus after a call that failed. -/
def refuse (b : Simulated) (code : DriverCode) : Simulated :=
  { b with registers := ⟨⟨StatusWord.err⟩, code.raw, 0⟩ }

/-- The instrument an online descriptor reaches, with its address. -/
def reach (b : Simulated) (d : Int) : Except DriverCode (Address × Instrument) :=
  match Keyed.get? b.links d with
  | some link =>
    if link.online then
      match Keyed.get? b.instruments link.address with
      | some i => .ok (link.address, i)
      | none => .error .enol
    else .error .edvr
  | none => .error .edvr

/-- How a call on a descriptor starts: with a fault in its place, with a
refusal, or at an instrument. -/
inductive Access where
  | faulted (b : Simulated)
  | refused (b : Simulated)
  | reached (a : Address) (i : Instrument)

/-- The start of a write, read, clear or serial poll. -/
def access (b : Simulated) (d : Int) : Access :=
  match b.faults with
  | f :: rest => .faulted { b with faults := rest, registers := ⟨f.status, f.error, 0⟩ }
  | [] =>
    match b.reach d with
    | .ok (a, i) => .reached a i
    | .error code => .refused (b.refuse code)

/-- A session opened, or refused for one of three reasons: the bus is set
to refuse, there is no such board, there is no such address. -/
def openDevice (b : Simulated) (r : OpenRequest) : Simulated × Int :=
  if b.failOpen ∨ r.board < 0 then (b.refuse .eneb, -1)
  else if ¬ (Address.mk r.primary r.secondary).InRange then (b.refuse .earg, -1)
  else
    ({ b with
        links := Keyed.set b.links b.nextDescriptor ⟨⟨r.primary, r.secondary⟩, true⟩
        nextDescriptor := b.nextDescriptor + 1 }.complete 0,
      b.nextDescriptor)

/-- A descriptor taken offline or online. The call is counted even where
there is no such descriptor. -/
def takeOffline (b : Simulated) (d value : Int) : Simulated :=
  let b := { b with offlineCounts := Keyed.set b.offlineCounts d (b.offlineCount d + 1) }
  match Keyed.get? b.links d with
  | some _ =>
    { b with links := Keyed.modify (fun l => { l with online := value != 0 }) b.links d }.complete 0
  | none => b.refuse .edvr

/-- Bytes written to a descriptor. -/
def write (b : Simulated) (d : Int) (data : List UInt8) : Simulated :=
  match b.access d with
  | .faulted b | .refused b => b
  | .reached a _ => (b.modifyInstrument a (·.receive data)).complete data.length

/-- A read from a descriptor. It transfers what the buffer holds or what
there is, whichever is less. -/
def read (b : Simulated) (d : Int) (buffer : List UInt8) : Simulated × List UInt8 :=
  match b.access d with
  | .faulted b | .refused b => (b, buffer)
  | .reached a i =>
    let n := i.transferCount buffer.length
    let ended := if i.ends buffer.length then StatusWord.endBit else 0
    ({ b.modifyInstrument a (·.consume n) with
        registers := ⟨⟨StatusWord.cmpl ||| ended⟩, 0, n⟩ },
      fillFront buffer (i.output.take n))

/-- A device clear sent to a descriptor. -/
def clear (b : Simulated) (d : Int) : Simulated :=
  match b.access d with
  | .faulted b | .refused b => b
  | .reached a _ => (b.modifyInstrument a (·.reset)).complete 0

/-- A serial poll of a descriptor. -/
def serialPoll (b : Simulated) (d : Int) : Simulated × UInt8 :=
  match b.access d with
  | .faulted b | .refused b => (b, 0)
  | .reached a i => ((b.modifyInstrument a (·.polled)).complete 0, i.shown.bits)

/-- The probes in front of the terminator. -/
def probed (probes : List UInt16) : List UInt16 := probes.takeWhile (· ≠ noAddress)

/-- The words of the attached instruments at the probed primary
addresses, in probing order. -/
def listeners (b : Simulated) (probes : List UInt16) : List UInt16 :=
  (probed probes).flatMap fun p =>
    (b.attached.filter fun a => a.primary.toUInt16 == p).map Address.word

/-- A discovery: what the script for it says, or else who is there. -/
def discover (b : Simulated) (probes buffer : List UInt16) : Simulated × List UInt16 :=
  let (found, reported) :=
    match b.discovery with
    | some scripted => scripted
    | none => let found := b.listeners probes; (found, found.length)
  (b.complete reported, fillFront buffer found)

/-- What the driver says about an error code. -/
def errorText (code : Int) : String :=
  match DriverCode.ofRaw? code with
  | some c => c.text
  | none => "unknown error " ++ toString code

/-- The version text of the driver. -/
def version : String := "rust_gpib simulated bus 0.1.0"

-- ================================================ the driver's laws

/-- The bytes waiting in all output queues. -/
def queued (b : Simulated) : Nat := Keyed.total (·.output.length) b.instruments

theorem length_read (b : Simulated) (d : Int) (buffer : List UInt8) :
    (b.read d buffer).2.length = buffer.length := by
  unfold read
  split <;> simp

theorem length_discover (b : Simulated) (probes buffer : List UInt16) :
    (b.discover probes buffer).2.length = buffer.length := by
  simp [discover]

theorem queued_read_lt (b : Simulated) (d : Int) (buffer : List UInt8)
    (h : (b.read d buffer).1.registers.unfinished = true) :
    (b.read d buffer).1.queued < b.queued := by
  unfold read at h ⊢
  cases hacc : b.access d with
  | faulted b' =>
    simp only [hacc] at h
    exfalso
    unfold access at hacc
    split at hacc
    · cases hacc; simp [Registers.unfinished] at h
    · split at hacc <;> simp at hacc
  | refused b' =>
    simp only [hacc] at h
    exfalso
    unfold access at hacc
    split at hacc
    · simp at hacc
    · split at hacc
      · simp at hacc
      · cases hacc; simp [Registers.unfinished, refuse] at h
  | reached a i =>
    simp only [hacc] at h ⊢
    have hget : Keyed.get? b.instruments a = some i := by
      unfold access at hacc
      split at hacc
      · simp at hacc
      · split at hacc
        · next a' i' hreach =>
          cases hacc
          unfold reach at hreach
          split at hreach
          · split at hreach
            · split at hreach
              · next j hj =>
                cases hreach
                exact hj
              · simp at hreach
            · simp at hreach
          · simp at hreach
        · simp at hacc
    have hn : 0 < i.transferCount buffer.length := by
      have : i.transferCount buffer.length ≠ 0 := by
        intro h0
        simp [Registers.unfinished, h0] at h
      omega
    have hle : i.transferCount buffer.length ≤ i.output.length := Nat.min_le_right _ _
    refine Keyed.total_modify_lt hget ?_
    simp only [Instrument.consume, List.length_drop]
    omega

instance : RawBus Simulated where
  openDevice := openDevice
  takeOffline := takeOffline
  write := write
  read := read
  clear := clear
  serialPoll := serialPoll
  discover b _ probes buffer := b.discover probes buffer
  registers := registers
  errorText _ := errorText
  version _ := version
  pending := queued
  length_read := length_read
  length_discover b _ := b.length_discover
  pending_read := queued_read_lt

end Simulated

end InstrumentBus
