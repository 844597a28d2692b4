/-
What an instrument's answer is read as. A caller names the type it wants;
the text, already freed of its line ending, either is a value of that
type or is refused whole. Text is taken as it is; numbers and truth
values may have blanks around them and are refused with the text quoted
as it came, blanks included.
-/
import InstrumentBus.Decimal
import InstrumentBus.Failure
import InstrumentBus.Text.Trim

namespace InstrumentBus

/-- The types a response can be read as. -/
inductive ResponseKind where
  | text
  | bool
  | single
  | double
  | int (kind : IntKind)
  deriving DecidableEq, Repr, Inhabited

/-- The name of a response type. -/
def ResponseKind.name : ResponseKind → String
  | .text => "string"
  | .bool => "bool"
  | .single => "f32"
  | .double => "f64"
  | .int kind => kind.name

/-- A response read as a value. A floating-point value is its bit pattern,
absent for the values that are no number. -/
inductive Response where
  | text (s : String)
  | bool (b : Bool)
  | single (bits : Option Nat)
  | double (bits : Option Nat)
  | int (v : Int)
  deriving DecidableEq, Repr, Inhabited

namespace Response

/-- The words for true, in upper case. -/
def trueWords : List String := ["1", "ON", "TRUE"]

/-- The words for false, in upper case. -/
def falseWords : List String := ["0", "OFF", "FALSE"]

/-- A truth value: one of the words for it in any letter case. -/
def bool? (s : List Char) : Option Bool :=
  let word := String.ofList (s.map Char.toUpper)
  if word ∈ trueWords then some true
  else if word ∈ falseWords then some false
  else none

/-- The value of a trimmed text, or nothing where the text is no value of
the type. -/
def ofTrimmed? (kind : ResponseKind) (s : List Char) : Option Response :=
  match kind with
  | .text => some (.text (String.ofList s))
  | .bool => (bool? s).map .bool
  | .single => (Decimal.parse? s).map fun d => .single (Binary.single.round d)
  | .double => (Decimal.parse? s).map fun d => .double (Binary.double.round d)
  | .int k => (Numeral.ofKind? k s).map .int

/-- A response text read as a value of the given type. -/
def ofText (kind : ResponseKind) (s : List Char) : Except Failure Response :=
  match kind with
  | .text => .ok (.text (String.ofList s))
  | kind =>
    match ofTrimmed? kind (Text.trim Text.isBlank s) with
    | some v => .ok v
    | none => .error (.format (String.ofList s) kind.name)

end Response

end InstrumentBus
