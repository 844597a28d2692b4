/-
Values written without quotes or brackets: truth values, numbers, dates
and times. Their texts have no common beginning, so such a value is read
by cutting out the longest run of characters that any of them can hold
(`isToken`), and asking what the run is as a whole.

Numbers may have underscores between digits. A whole number has at most
one leading sign and no leading zero, or is written to base 16, 8 or 2
without a sign, and lies in the range of 64 bits with sign. A number with
a fraction or an exponent that is too large to be one is refused where it
is positive.
-/
import InstrumentBus.Decimal
import InstrumentBus.Toml.Moment
import InstrumentBus.Toml.Quoted
import InstrumentBus.Toml.Value

namespace InstrumentBus.Toml.Plain

/-- A character that a value without quotes can hold. -/
def isToken (c : Char) : Bool :=
  c.isAlphanum || c == '_' || c == '+' || c == '-' || c == '.' || c == ':'

/-- One or more digits with single underscores between them, less the
underscores. -/
def grouped? (isDigit : Char → Bool) : List Char → Option (List Char)
  | [] => none
  | [c] => if isDigit c then some [c] else none
  | c :: '_' :: rest => if isDigit c then (grouped? isDigit rest).map (c :: ·) else none
  | c :: rest => if isDigit c then (grouped? isDigit rest).map (c :: ·) else none

/-- A whole number to a base, from digits that belong to it. -/
def based (base : Nat) (digits : List Char) : Nat :=
  digits.foldl (fun acc c => acc * base + (Quoted.hexDigit? c).getD 0) 0

/-- A digit of a base up to 16. -/
def isDigitOf (base : Nat) (c : Char) : Bool := (Quoted.hexDigit? c).any (· < base)

/-- An unsigned decimal number as it may be written, less underscores: no
leading zero, unless it is zero. -/
def unsigned? (s : List Char) : Option (List Char) :=
  (grouped? Numeral.isDigit s).filter fun ds => ds.length = 1 ∨ ds.head? ≠ some '0'

/-- A whole number. -/
def integer? (s : List Char) : Option Int :=
  let n : Option Int :=
    match s with
    | '0' :: 'x' :: rest => (grouped? (isDigitOf 16) rest).map fun ds => (based 16 ds : Int)
    | '0' :: 'o' :: rest => (grouped? (isDigitOf 8) rest).map fun ds => (based 8 ds : Int)
    | '0' :: 'b' :: rest => (grouped? (isDigitOf 2) rest).map fun ds => (based 2 ds : Int)
    | '+' :: rest => (unsigned? rest).map fun ds => (Numeral.value ds : Int)
    | '-' :: rest => (unsigned? rest).map fun ds => -(Numeral.value ds : Int)
    | s => (unsigned? s).map fun ds => (Numeral.value ds : Int)
  n.filter IntKind.i64.holds

/-- The exponent of a number, less underscores: nothing, or a letter, an
optional sign and digits. -/
def exponent? (s : List Char) : Option (List Char) :=
  match s with
  | [] => some []
  | c :: rest =>
    if c = 'e' ∨ c = 'E' then
      match rest with
      | '+' :: ds => (grouped? Numeral.isDigit ds).map fun ds => 'e' :: ds
      | '-' :: ds => (grouped? Numeral.isDigit ds).map fun ds => 'e' :: '-' :: ds
      | ds => (grouped? Numeral.isDigit ds).map fun ds => 'e' :: ds
    else none

/-- A character that a fraction or an exponent starts with. -/
def isMark (c : Char) : Bool := c == '.' || c == 'e' || c == 'E'

/-- A number with a fraction, an exponent or both, less its sign and its
underscores. -/
def fractional? (s : List Char) : Option (List Char) := do
  let whole ← unsigned? (s.takeWhile (!isMark ·))
  match s.dropWhile (!isMark ·) with
  | '.' :: rest =>
    let fraction ← grouped? Numeral.isDigit (rest.takeWhile (!isMark ·))
    let exponent ← exponent? (rest.dropWhile (!isMark ·))
    return whole ++ '.' :: fraction ++ exponent
  | [] => none
  | rest =>
    let exponent ← exponent? rest
    return whole ++ exponent

/-- A number with a fraction, an exponent or both, or one of the two words
for what is no finite number. -/
def float? (s : List Char) : Option (Option Nat) :=
  let (negative, rest) := Decimal.sign s
  let word := String.ofList rest
  if word = "inf" then some (Binary.double.round (.infinite negative))
  else if word = "nan" then some none
  else do
    let digits ← fractional? rest
    let d ← Decimal.unsigned? negative digits
    let bits := Binary.double.round d
    if bits = some Binary.double.infinity then none else some bits

/-- The value of a run of characters. -/
def ofToken? (s : List Char) : Option Value :=
  let word := String.ofList s
  if word = "true" then some (.boolean true)
  else if word = "false" then some (.boolean false)
  else
    match integer? s with
    | some n => some (.integer n)
    | none =>
      match float? s with
      | some bits => some (.float bits)
      | none => if Moment.isMoment s then some (.moment word) else none

/-- A value without quotes or brackets at the front of a text. A date may
be followed, after one blank, by its time. -/
def read (s : List Char) : Option (Value × List Char) :=
  let token := s.takeWhile isToken
  let rest := s.dropWhile isToken
  let joined : Option (Value × List Char) :=
    match rest with
    | ' ' :: more =>
      let time := more.takeWhile isToken
      if Moment.isDate token ∧ Moment.isTime true time then
        some (.moment (String.ofList (token ++ ' ' :: time)), more.dropWhile isToken)
      else none
    | _ => none
  match joined with
  | some r => some r
  | none => (ofToken? token).map fun v => (v, rest)

end InstrumentBus.Toml.Plain
