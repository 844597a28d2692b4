/-
Decimal numbers in text, and the binary floating-point number nearest to
one.

# The grammar

An optional sign; then digits with at most one point among them and at
least one digit on one side of it; then, optionally, an exponent, "e" or
"E" with an optional sign and at least one digit. Or, after the sign, one
of the words "inf", "infinity" and "nan" in any letter case.

# The rounding

`Binary.round` works on the exact value, a quotient of two natural
numbers, and rounds once: to the nearest number of the format, and of two
equally near ones to the one with an even significand. Values too large
for the format become infinite and values too small become zero, which is
where the same rounding rule puts them. The result is the bit pattern of
the number, and one formula gives it for normal and subnormal numbers
alike: a significand that rounds up to the next power of two carries into
the exponent field by itself.
-/
import InstrumentBus.Numeral

namespace InstrumentBus

/-- A number as its text gives it: `digits · 10 ^ exponent`, or one of
the values that are no number of that form. -/
inductive Decimal where
  | finite (negative : Bool) (digits : Nat) (exponent : Int)
  | infinite (negative : Bool)
  | notANumber
  deriving DecidableEq, Repr, Inhabited

namespace Decimal

/-- An optional sign, and what follows it. -/
def sign (s : List Char) : Bool × List Char :=
  match s with
  | '+' :: rest => (false, rest)
  | '-' :: rest => (true, rest)
  | s => (false, s)

/-- The exponent part of a decimal number: nothing, or a marker and a
whole number that may have either sign. -/
def exponent? (s : List Char) : Option Int :=
  match s with
  | [] => some 0
  | c :: rest => if c = 'e' ∨ c = 'E' then Numeral.parse? true rest else none

/-- A decimal number without its sign. -/
def unsigned? (negative : Bool) (s : List Char) : Option Decimal :=
  let whole := s.takeWhile Numeral.isDigit
  let (fraction, rest) :=
    match s.dropWhile Numeral.isDigit with
    | '.' :: rest => (rest.takeWhile Numeral.isDigit, rest.dropWhile Numeral.isDigit)
    | rest => ([], rest)
  if whole = [] ∧ fraction = [] then none
  else
    (exponent? rest).map fun e =>
      .finite negative (Numeral.value (whole ++ fraction)) (e - fraction.length)

/-- The number a text stands for. -/
def parse? (s : List Char) : Option Decimal :=
  let (negative, rest) := sign s
  let word := String.ofList (rest.map Char.toLower)
  if word = "inf" ∨ word = "infinity" then some (.infinite negative)
  else if word = "nan" then some .notANumber
  else unsigned? negative rest

end Decimal

/-- A binary floating-point format. -/
structure Binary where
  -- significand bits, the implicit one included
  precision : Nat
  -- the exponent of the least positive number: it is `2 ^ minExponent`
  minExponent : Int
  infinity : Nat
  -- the bit that makes a number negative
  signBit : Nat
  deriving DecidableEq, Repr, Inhabited

namespace Binary

/-- Single precision. -/
def single : Binary := ⟨24, -149, 0x7F800000, 0x80000000⟩

/-- Double precision. -/
def double : Binary := ⟨53, -1074, 0x7FF0000000000000, 0x8000000000000000⟩

/-- The whole number nearest to `num / den`; of two, the even one. -/
def nearestEven (num den : Nat) : Nat :=
  let q := num / den
  let r := num % den
  if 2 * r < den then q
  else if den < 2 * r then q + 1
  else if q % 2 = 0 then q else q + 1

/-- `num / den` scaled down by `2 ^ e`. -/
def scale (num den : Nat) (e : Int) : Nat × Nat :=
  if 0 ≤ e then (num, den <<< e.toNat) else (num <<< (-e).toNat, den)

/-- The exponent of the greatest power of two that is at most `num / den`,
both positive. -/
def magnitude (num den : Nat) : Int :=
  let k : Int := (Nat.log2 num : Int) - Nat.log2 den
  let (n, d) := scale num den k
  if d ≤ n then k else k - 1

/-- The bit pattern of the number of the format nearest to `num / den`. -/
def ofQuotient (f : Binary) (num den : Nat) : Nat :=
  if num = 0 then 0
  else
    let e := max (magnitude num den - (f.precision - 1)) f.minExponent
    let (n, d) := scale num den e
    let bits := (e - f.minExponent).toNat <<< (f.precision - 1) + nearestEven n d
    min bits f.infinity

/-- A power of ten beyond which every number of either format is infinite,
and below whose inverse every number rounds to zero. -/
def reach : Int := 400

/-- The bit pattern nearest to `digits · 10 ^ exponent`. Far outside the
format's range the answer is known without forming the power of ten. -/
def ofScaled (f : Binary) (digits : Nat) (exponent : Int) : Nat :=
  if digits = 0 then 0
  else if reach < exponent then f.infinity
  else if exponent + (Nat.log2 digits / 3 + 1 : Nat) < -reach then 0
  else if 0 ≤ exponent then f.ofQuotient (digits * Nat.pow 10 exponent.toNat) 1
  else f.ofQuotient digits (Nat.pow 10 (-exponent).toNat)

/-- The bit pattern of a number in the format; not-a-number has none to
itself. -/
def round (f : Binary) : Decimal → Option Nat
  | .finite negative digits exponent =>
    some (f.ofScaled digits exponent + if negative then f.signBit else 0)
  | .infinite negative => some (f.infinity + if negative then f.signBit else 0)
  | .notANumber => none

end Binary

end InstrumentBus
