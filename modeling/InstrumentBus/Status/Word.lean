/-
The status word the driver leaves behind after every raw call. Three of
its bits steer a session: TIMO and ERR say that the call failed, END that
the message it transferred is complete.
-/
import InstrumentBus.Flags

namespace InstrumentBus

/-- A status word, unknown bits kept. -/
structure StatusWord where
  bits : UInt16
  deriving DecidableEq, Repr, Inhabited

namespace StatusWord

/-- The named bits, in declaration order. -/
def table : Flags.Table :=
  [("ERR", 0x8000), ("TIMO", 0x4000), ("END", 0x2000), ("SRQI", 0x1000),
    ("RQS", 0x800), ("CMPL", 0x100), ("LOK", 0x80), ("REM", 0x40),
    ("CIC", 0x20), ("ATN", 0x10), ("TACS", 0x8), ("LACS", 0x4),
    ("DTAS", 0x2), ("DCAS", 0x1)]

/-- A driver or bus error occurred. -/
def err : UInt16 := 0x8000

/-- The operation timed out. -/
def timo : UInt16 := 0x4000

/-- The end of a message was seen. -/
def endBit : UInt16 := 0x2000

/-- The call completed. -/
def cmpl : UInt16 := 0x100

/-- The call failed with a driver error. -/
def failed (w : StatusWord) : Bool := w.bits &&& err != 0

/-- The call timed out. -/
def timedOut (w : StatusWord) : Bool := w.bits &&& timo != 0

/-- The call ended a message. -/
def ended (w : StatusWord) : Bool := w.bits &&& endBit != 0

/-- How a status word is shown. -/
def text (w : StatusWord) : String := Flags.text "StatusWord" table w.bits.toNat

end StatusWord

end InstrumentBus
