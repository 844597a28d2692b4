/-
The three registers every raw call leaves behind. They are sticky: they
keep the outcome of the last call until the next one overwrites it, so
whoever wants to know how a call went reads them before anything else is
called.
-/
import InstrumentBus.Status.Word

namespace InstrumentBus

/-- The registers of a driver. -/
structure Registers where
  status : StatusWord
  error : Int
  -- the bytes or results the last call transferred
  count : Nat
  deriving DecidableEq, Repr, Inhabited

namespace Registers

/-- The registers before the first call. -/
def clear : Registers := ⟨⟨0⟩, 0, 0⟩

/-- The registers after a call that completed and transferred `count`. -/
def completed (count : Nat) : Registers := ⟨⟨StatusWord.cmpl⟩, 0, count⟩

/-- The last call failed or timed out. -/
def failing (r : Registers) : Bool := r.status.timedOut || r.status.failed

/-- A read that left these registers is to be followed by another: it did
not fail, did not end the message and was not empty. -/
def unfinished (r : Registers) : Bool :=
  !r.failing && !r.status.ended && r.count != 0

/-- A call that completed did not fail. -/
theorem failing_completed (count : Nat) : (completed count).failing = false := by
  show (StatusWord.timedOut ⟨StatusWord.cmpl⟩ || StatusWord.failed ⟨StatusWord.cmpl⟩) = false
  decide

end Registers

end InstrumentBus
