/-
The bus on a bench: one in memory, or a script of replies. Sessions and
the registry are indifferent to which of the two they run on.
-/
import InstrumentBus.Bus.Recorded
import InstrumentBus.Bus.Scripted
import InstrumentBus.Bus.Simulated

namespace InstrumentBus

/-- A bus that a bench can be set up with. -/
inductive BenchBus where
  | simulated (b : Simulated)
  | scripted (s : Scripted)

namespace BenchBus

/-- The bus in memory changed; a script has nothing of the kind. -/
def onSimulated (f : Simulated → Simulated) : BenchBus → Option BenchBus
  | .simulated b => some (.simulated (f b))
  | .scripted _ => none

/-- The bus in memory looked at. -/
def viewSimulated {α : Type} (f : Simulated → α) : BenchBus → Option α
  | .simulated b => some (f b)
  | .scripted _ => none

instance : RawBus BenchBus where
  openDevice
    | .simulated b, r => let (b, d) := RawBus.openDevice b r; (.simulated b, d)
    | .scripted s, r => let (s, d) := RawBus.openDevice s r; (.scripted s, d)
  takeOffline
    | .simulated b, d, v => .simulated (RawBus.takeOffline b d v)
    | .scripted s, d, v => .scripted (RawBus.takeOffline s d v)
  write
    | .simulated b, d, data => .simulated (RawBus.write b d data)
    | .scripted s, d, data => .scripted (RawBus.write s d data)
  read
    | .simulated b, d, buffer => let (b, x) := RawBus.read b d buffer; (.simulated b, x)
    | .scripted s, d, buffer => let (s, x) := RawBus.read s d buffer; (.scripted s, x)
  clear
    | .simulated b, d => .simulated (RawBus.clear b d)
    | .scripted s, d => .scripted (RawBus.clear s d)
  serialPoll
    | .simulated b, d => let (b, x) := RawBus.serialPoll b d; (.simulated b, x)
    | .scripted s, d => let (s, x) := RawBus.serialPoll s d; (.scripted s, x)
  discover
    | .simulated b, board, probes, buffer =>
      let (b, x) := RawBus.discover b board probes buffer; (.simulated b, x)
    | .scripted s, board, probes, buffer =>
      let (s, x) := RawBus.discover s board probes buffer; (.scripted s, x)
  registers
    | .simulated b => RawBus.registers b
    | .scripted s => RawBus.registers s
  errorText
    | .simulated b, code => RawBus.errorText b code
    | .scripted s, code => RawBus.errorText s code
  version
    | .simulated b => RawBus.version b
    | .scripted s => RawBus.version s
  pending
    | .simulated b => RawBus.pending b
    | .scripted s => RawBus.pending s
  length_read b d buffer := by
    cases b with
    | simulated b => exact RawBus.length_read b d buffer
    | scripted s => exact RawBus.length_read s d buffer
  length_discover b board probes buffer := by
    cases b with
    | simulated b => exact RawBus.length_discover b board probes buffer
    | scripted s => exact RawBus.length_discover s board probes buffer
  pending_read b d buffer := by
    cases b with
    | simulated b => exact RawBus.pending_read b d buffer
    | scripted s => exact RawBus.pending_read s d buffer

end BenchBus

end InstrumentBus
