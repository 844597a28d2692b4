/-
The end-of-string mode handed to the driver when a session is opened: a
character and what to do with it. The driver takes both in one word, the
character in the low byte and the three flags above it, so the packing is
free of overlap exactly when the flags are among the known ones.
-/
import InstrumentBus.Flags

namespace InstrumentBus

/-- An end-of-string mode. Unknown flag bits are kept as they came. -/
structure EndOfString where
  character : UInt8
  flags : UInt16
  deriving DecidableEq, Repr, Inhabited

namespace EndOfString

/-- Reads end when the character arrives (REOS), writes assert END with
it (XEOS), all eight of its bits are compared (BIN). -/
def table : Flags.Table := [("REOS", 0x400), ("XEOS", 0x800), ("BIN", 0x1000)]

/-- The flag bits that have a meaning. -/
def known : UInt16 := 0x1C00

/-- No end-of-string handling. -/
def disabled : EndOfString := ⟨0, 0⟩

/-- Reads end at the given character. -/
def terminateReadOn (c : UInt8) : EndOfString := ⟨c, 0x400⟩

/-- Only known flags are set. -/
def FlagsKnown (flags : UInt16) : Prop := flags &&& known = flags

instance (flags : UInt16) : Decidable (FlagsKnown flags) :=
  inferInstanceAs (Decidable (_ = _))

/-- The driver's form: the flags, with the character in the low byte. -/
def word (m : EndOfString) : UInt16 := m.flags ||| m.character.toUInt16

end EndOfString

end InstrumentBus
