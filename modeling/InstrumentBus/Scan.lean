/-
Finding out who listens on a board. A scan makes one discovery call for a
range of primary addresses, with room for every secondary address of each
of them, and decodes the words it gets. The driver is free to report more
listeners than there was room for; the number is passed on, the list is
cut, and the cut is owned up to.
-/
import InstrumentBus.Session

namespace InstrumentBus

/-- What a scan found. -/
structure ScanOutcome where
  -- the addresses of the listeners, in the driver's order
  addresses : List Address
  reported : Nat
  -- the driver reports more than there was room for
  truncated : Bool
  deriving DecidableEq, Repr, Inhabited

namespace Scan

/-- Both bounds are primary addresses a device can have, in order. -/
def ValidRange (lo hi : UInt8) : Prop :=
  Address.PrimaryInRange lo ∧ Address.PrimaryInRange hi ∧ lo ≤ hi

instance (lo hi : UInt8) : Decidable (ValidRange lo hi) :=
  inferInstanceAs (Decidable (_ ∧ _))

/-- Room for one listener per secondary address, zero included. -/
def resultsPerPrimary : Nat := 32

/-- The primary addresses of a range, in ascending order. -/
def primaries (lo hi : UInt8) : List UInt16 :=
  (List.range (hi.toNat + 1 - lo.toNat)).map fun k => UInt16.ofNat (lo.toNat + k)

/-- The probe list of a range: its primary addresses and the terminator. -/
def probes (lo hi : UInt8) : List UInt16 := primaries lo hi ++ [noAddress]

/-- How many words the result buffer of a range holds. -/
def capacity (lo hi : UInt8) : Nat := (primaries lo hi).length * resultsPerPrimary

/-- The listeners with a primary address in a range. -/
def scan {β : Type} [RawBus β] (board : Int32) (lo hi : UInt8) : Exchange β ScanOutcome := do
  if ¬ ValidRange lo hi then throw (.invalidRange lo hi)
  let room := capacity lo hi
  let (bus, words) :=
    RawBus.discover (← get) board (probes lo hi) (List.replicate room 0)
  set bus
  let reported := (RawBus.registers bus).count
  return {
    addresses := (words.take reported).map Address.ofWord
    reported := reported
    truncated := room < reported }

/-- The addresses of the listeners alone. A cut is not mentioned. -/
def discover {β : Type} [RawBus β] (board : Int32) (lo hi : UInt8) : Exchange β (List Address) :=
  (·.addresses) <$> scan board lo hi

end Scan

end InstrumentBus
