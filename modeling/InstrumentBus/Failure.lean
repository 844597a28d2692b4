/-
Everything that can go wrong between a caller and an instrument, one
constructor per cause. The wording is in `Failure.message` alone; the
rest of the library builds and inspects causes.

Two of the causes are timeouts and one is a cancellation, and the three
never overlap: a caller who cancelled a wait is told so and is not told
that it ran out of time.
-/
import InstrumentBus.Address
import InstrumentBus.Duration
import InstrumentBus.DriverCode
import InstrumentBus.Status.Word

namespace InstrumentBus

/-- An argument that can never be valid. -/
inductive Misuse where
  | primaryAddress (n : UInt8)
  | secondaryAddress (n : UInt8)
  -- a text write of no text
  | emptyCommand
  | zeroInterval
  -- a misuse that a caller describes in its own words
  | other (text : String)
  deriving DecidableEq, Repr

/-- What is said of a misuse. -/
def Misuse.message : Misuse → String
  | .primaryAddress n =>
    let n := toString n
    let lo := toString Address.minPrimary
    let hi := toString Address.maxPrimary
    s!"primary address {n} is outside {lo}..={hi}"
  | .secondaryAddress n =>
    let n := toString n
    let hi := toString Address.maxSecondary
    s!"secondary address {n} is outside 0..={hi}"
  | .emptyCommand => "command must not be empty"
  | .zeroInterval => "poll interval must be greater than zero"
  | .other text => text

/-- A failed operation. -/
inductive Failure where
  | openRefused (address : Address) (board : Int32) (descriptor : Int)
  | timeout (operation : String) (command : Option String) (status : StatusWord) (code : Int)
  | waitTimeout (operation : String) (budget : Duration)
  -- a raw call failed; the message is the driver's own
  | hardware (operation : String) (command : Option String) (status : StatusWord) (code : Int)
      (text : String)
  | format (value : String) (target : String)
  | invalidRange (min max : UInt8)
  | invalidArgument (misuse : Misuse)
  | useAfterClose (target : String)
  | cancelled (operation : String)
  deriving DecidableEq, Repr

namespace Failure

/-- What is said of a failure. -/
def message : Failure → String
  | .openRefused address board descriptor =>
    let a := address.text
    let b := toString board
    let d := toString descriptor
    s!"failed to open a session to {a} on board {b} (descriptor {d})"
  | .timeout operation _ _ _ => s!"the '{operation}' operation timed out."
  | .waitTimeout operation budget =>
    let b := budget.text
    s!"the '{operation}' operation timed out after {b}."
  | .hardware _ _ _ _ text => text
  | .format value target => s!"cannot convert response '{value}' to {target}"
  | .invalidRange min max =>
    let lo := toString min
    let hi := toString max
    s!"invalid primary address range {lo}..={hi}; both bounds must be within 1..=30 and min <= max"
  | .invalidArgument misuse => "invalid argument: " ++ misuse.message
  | .useAfterClose target => s!"the {target} has been closed"
  | .cancelled operation => s!"the '{operation}' operation was cancelled"

/-- A raw call timed out or a wait ran out of its budget. -/
def isTimeout : Failure → Bool
  | .timeout .. | .waitTimeout .. => true
  | _ => false

/-- The operation was cancelled. -/
def isCancelled : Failure → Bool
  | .cancelled _ => true
  | _ => false

/-- The driver's code for a failed raw call, when it is a known one. -/
def code? : Failure → Option DriverCode
  | .timeout _ _ _ code => DriverCode.ofRaw? code
  | .hardware _ _ _ code _ => DriverCode.ofRaw? code
  | _ => none

end Failure

/-- The address made of two parts, when both are in range. The primary
address is checked first. -/
def Address.make? (primary secondary : UInt8) : Except Failure Address :=
  if ¬ Address.PrimaryInRange primary then
    .error (.invalidArgument (.primaryAddress primary))
  else if Address.maxSecondary < secondary then
    .error (.invalidArgument (.secondaryAddress secondary))
  else .ok ⟨primary, secondary⟩

end InstrumentBus
