/-
The driver's ladder of I/O timeouts. A session is opened at one rung and
keeps it. The rungs are a factor of about three apart, from ten
microseconds to a hundred seconds, below them the rung that disables the
timeout; a caller who asks for any other length is given the lowest rung
that is not shorter (`Timeout.ofDuration`).
-/
import InstrumentBus.Duration
import InstrumentBus.Named

namespace InstrumentBus

/-- A rung of the timeout ladder. -/
inductive Timeout where
  | disabled
  | us10 | us30 | us100 | us300
  | ms1 | ms3 | ms10 | ms30 | ms100 | ms300
  | s1 | s3 | s10 | s30 | s100
  deriving DecidableEq, Repr, Inhabited

namespace Timeout

/-- Every rung, lowest first. -/
def all : List Timeout :=
  [.disabled, .us10, .us30, .us100, .us300, .ms1, .ms3, .ms10, .ms30,
    .ms100, .ms300, .s1, .s3, .s10, .s30, .s100]

/-- The number the driver knows a rung by: its place in the ladder. -/
def index : Timeout → Nat
  | .disabled => 0
  | .us10 => 1
  | .us30 => 2
  | .us100 => 3
  | .us300 => 4
  | .ms1 => 5
  | .ms3 => 6
  | .ms10 => 7
  | .ms30 => 8
  | .ms100 => 9
  | .ms300 => 10
  | .s1 => 11
  | .s3 => 12
  | .s10 => 13
  | .s30 => 14
  | .s100 => 15

/-- The rung the driver knows by a number. -/
def ofIndex? (n : Nat) : Option Timeout := all[n]?

/-- The length of a rung in microseconds; the disabled rung has none. -/
def micros? : Timeout → Option Nat
  | .disabled => none
  | .us10 => some 10
  | .us30 => some 30
  | .us100 => some 100
  | .us300 => some 300
  | .ms1 => some 1000
  | .ms3 => some 3000
  | .ms10 => some 10000
  | .ms30 => some 30000
  | .ms100 => some 100000
  | .ms300 => some 300000
  | .s1 => some 1000000
  | .s3 => some 3000000
  | .s10 => some 10000000
  | .s30 => some 30000000
  | .s100 => some 100000000

/-- The length of a rung; the disabled rung has none. -/
def duration? (t : Timeout) : Option Duration := t.micros?.map .ofMicros

/-- The spelling of a rung. -/
def name : Timeout → String
  | .disabled => "none"
  | .us10 => "10us"
  | .us30 => "30us"
  | .us100 => "100us"
  | .us300 => "300us"
  | .ms1 => "1ms"
  | .ms3 => "3ms"
  | .ms10 => "10ms"
  | .ms30 => "30ms"
  | .ms100 => "100ms"
  | .ms300 => "300ms"
  | .s1 => "1s"
  | .s3 => "3s"
  | .s10 => "10s"
  | .s30 => "30s"
  | .s100 => "100s"

instance : Named Timeout := ⟨all, name⟩

/-- The rung a session is opened at unless another is asked for. -/
def standard : Timeout := .s10

/-- A rung lasts at least as long as `d`. -/
def covers (d : Duration) (t : Timeout) : Bool :=
  match t.duration? with
  | some own => d.nanos ≤ own.nanos
  | none => false

/-- The lowest rung that is not shorter than the length asked for, and
the highest rung where none is long enough. -/
def ofDuration (d : Duration) : Timeout :=
  (all.find? (covers d)).getD .s100

/-- How a rung is shown: its length, or that it is disabled. -/
def text (t : Timeout) : String :=
  match t.duration? with
  | some d => d.text
  | none => "disabled"

/-- How a rung is shown to a maintainer. -/
def label (t : Timeout) : String :=
  match t with
  | .disabled => "Disabled"
  | t => "T" ++ t.name

end Timeout

end InstrumentBus
