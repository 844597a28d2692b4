/-
Bus steps carried out. A bus step is over at once; it never waits, and it
sees no session but the bus alone. Steps that look into a bus in memory
are impossible on a script of replies, which is what `none` says.
-/
import InstrumentBus.Bench.Step

namespace InstrumentBus.BusStep

/-- The bus of a bench, with the record of its calls. -/
abbrev BenchLine := Recorded BenchBus

/-- A change to a bus in memory. -/
def changed (r : BenchLine) (f : Simulated → Simulated) : Option (BenchLine × StepResult) :=
  (r.bus.onSimulated f).map fun bus => ({ r with bus }, .nothing)

/-- A number read off a bus in memory. -/
def counted (r : BenchLine) (f : Simulated → Nat) : Option (BenchLine × StepResult) :=
  (r.bus.viewSimulated f).map fun n => (r, .number n)

/-- An exchange whose failure is the result. -/
def exchanged {α : Type} (r : BenchLine) (x : Exchange BenchLine α) (f : α → StepResult) :
    BenchLine × StepResult :=
  match x.run r with
  | (.ok a, r) => (r, f a)
  | (.error e, r) => (r, .failure e)

/-- The status word in the registers, as a result. -/
def status (r : BenchLine) : StepResult := .number (RawBus.registers r).status.bits.toNat

/-- A bus step carried out. -/
def run (s : BusStep) (r : BenchLine) : Option (BenchLine × StepResult) :=
  match s with
  | .attach a i => changed r (·.attach a i)
  | .pushOutput a bytes => changed r (·.pushOutput a bytes)
  | .setStatus a status => changed r (·.setStatus a status)
  | .failOpen refuse => changed r fun b => { b with failOpen := refuse }
  | .injectFault f => changed r (·.injectFault f)
  | .scriptDiscovery words reported =>
    changed r fun b => { b with discovery := some (words, reported) }
  | .clearCalls => changed { r with trace := [] } id
  | .callCount => counted r fun _ => r.trace.length
  | .offlineCount d => counted r (·.offlineCount d)
  | .totalOffline => counted r (·.totalOffline)
  | .onlineSessions => counted r (·.onlineSessions)
  | .written a => (r.bus.viewSimulated (·.writtenAt a)).map fun l => (r, .writes l)
  | .rawOpen request =>
    let (r, d) := RawBus.openDevice r request
    some (r, .number d)
  | .rawTakeOffline d v => let r := RawBus.takeOffline r d v; some (r, status r)
  | .rawWrite d data => let r := RawBus.write r d data; some (r, status r)
  | .rawClear d => let r := RawBus.clear r d; some (r, status r)
  | .rawSerialPoll d =>
    let (r, byte) := RawBus.serialPoll r d
    some (r, .number byte.toNat)
  | .rawRead d capacity =>
    let (r, bytes) := RawBus.read r d (List.replicate capacity 0)
    some (r, .buffer (RawBus.registers r).status bytes)
  | .rawDiscover board probes capacity =>
    let (r, words) := RawBus.discover r board probes (List.replicate capacity 0)
    some (r, .words words)
  | .errorText code => some (r, .text (RawBus.errorText r code))
  | .version => some (r, .text (RawBus.version r))
  | .validate operation command =>
    some (exchanged r (Session.checked operation command) fun w => .number w.bits.toNat)
  | .scan board lo hi => some (exchanged r (Scan.scan board lo hi) (.scan board))
  | .discover board lo hi => some (exchanged r (Scan.discover board lo hi) .addresses)

end InstrumentBus.BusStep
