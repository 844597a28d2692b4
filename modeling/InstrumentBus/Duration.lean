/-
Lengths of time, counted in whole nanoseconds. The longest one that can
be asked for is just short of 2^64 seconds, and nothing here wraps: a
length is a natural number, and whoever adds it to a clock decides what
lies beyond the clock's reach.
-/
namespace InstrumentBus

/-- A length of time. -/
structure Duration where
  nanos : Nat
  deriving DecidableEq, Repr, Inhabited

namespace Duration

/-- Nanoseconds in a second. -/
def perSecond : Nat := 1000000000

/-- Nanoseconds in a millisecond. -/
def perMilli : Nat := 1000000

/-- Nanoseconds in a microsecond. -/
def perMicro : Nat := 1000

/-- A length of whole seconds. -/
def ofSecs (n : Nat) : Duration := ⟨n * perSecond⟩

/-- A length of whole milliseconds. -/
def ofMillis (n : Nat) : Duration := ⟨n * perMilli⟩

/-- A length of whole microseconds. -/
def ofMicros (n : Nat) : Duration := ⟨n * perMicro⟩

/-- The empty length. -/
def zero : Duration := ⟨0⟩

/-- The longest length that can be named: 2^64 − 1 seconds and all but
one of the nanoseconds of the next. -/
def max : Duration := ⟨0x10000000000000000 * perSecond - 1⟩

/-- The whole seconds of a length. -/
def secs (d : Duration) : Nat := d.nanos / perSecond

/-- What a length has beyond its whole seconds, in nanoseconds. -/
def subsecNanos (d : Duration) : Nat := d.nanos % perSecond

/-- The length has no extent. -/
def isZero (d : Duration) : Bool := d.nanos == 0

-- ======================================================= its text

/-- The last `places` decimal digits of `n`, leading zeros kept. -/
def digitsOf : Nat → Nat → List Char
  | 0, _ => []
  | places + 1, n => digitsOf places (n / 10) ++ [Nat.digitChar (n % 10)]

/-- `n` units of which `10 ^ places` make one, as a decimal number whose
fraction is exact and carries no trailing zeros. -/
def decimal (places n : Nat) : String :=
  let whole := toString (n / Nat.pow 10 places)
  let fraction := (digitsOf places n).reverse.dropWhile (· == '0') |>.reverse
  if fraction.isEmpty then whole else whole ++ "." ++ String.ofList fraction

/-- The text of a length: in the largest of s, ms, µs and ns of which it
has at least one. -/
def text (d : Duration) : String :=
  if perSecond ≤ d.nanos then decimal 9 d.nanos ++ "s"
  else if perMilli ≤ d.nanos then decimal 6 d.nanos ++ "ms"
  else if perMicro ≤ d.nanos then decimal 3 d.nanos ++ "µs"
  else decimal 0 d.nanos ++ "ns"

end Duration

end InstrumentBus
