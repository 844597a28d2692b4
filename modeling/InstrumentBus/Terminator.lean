/-
What a text write ends with. Raw byte writes never get a terminator; text
writes get the one their session is set to at the moment of the write.
-/
import InstrumentBus.Named

namespace InstrumentBus

/-- The terminator of a text write. -/
inductive Terminator where
  | nothing | lf | cr | crlf
  deriving DecidableEq, Repr, Inhabited

namespace Terminator

/-- Every terminator, in listing order. -/
def all : List Terminator := [.nothing, .lf, .cr, .crlf]

/-- The bytes a terminator adds to a write. -/
def bytes : Terminator → List UInt8
  | .nothing => []
  | .lf => [10]
  | .cr => [13]
  | .crlf => [13, 10]

/-- The spelling of a terminator. -/
def name : Terminator → String
  | .nothing => "none"
  | .lf => "lf"
  | .cr => "cr"
  | .crlf => "crlf"

instance : Named Terminator := ⟨all, name⟩

/-- The terminator a session is opened with unless another is asked for. -/
def standard : Terminator := .lf

/-- How a terminator is shown to a maintainer. -/
def label : Terminator → String
  | .nothing => "None"
  | .lf => "Lf"
  | .cr => "Cr"
  | .crlf => "CrLf"

end Terminator

end InstrumentBus
