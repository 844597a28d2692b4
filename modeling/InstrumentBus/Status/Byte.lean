/-
The status byte an instrument answers a serial poll with. It is the
instrument's own register and shares no bit position with the driver's
status word: a request for service is 0x40 here.
-/
import InstrumentBus.Flags

namespace InstrumentBus

/-- A status byte, unknown bits kept. -/
structure StatusByte where
  bits : UInt8
  deriving DecidableEq, Repr, Inhabited

namespace StatusByte

/-- The named bits, in declaration order. -/
def table : Flags.Table := [("RQS", 0x40), ("ESB", 0x20), ("MAV", 0x10)]

/-- Service is requested. -/
def rqs : UInt8 := 0x40

/-- A message is waiting in the output queue. -/
def mav : UInt8 := 0x10

/-- The instrument requests service. -/
def serviceRequested (b : StatusByte) : Bool := b.bits &&& rqs != 0

/-- The instrument has a message waiting. -/
def messageAvailable (b : StatusByte) : Bool := b.bits &&& mav != 0

/-- How a status byte is shown. -/
def text (b : StatusByte) : String := Flags.text "StatusByte" table b.bits.toNat

end StatusByte

end InstrumentBus
